import ImsStack.Platform.AString

/-!
The P-CSCF addresses of `AosPcscf`: their discovery, their order and the current one.  What the
connection, the subscriber and the carrier configuration answer is given with each operation;
an operation is none where the source reads the list outside its bounds.
-/

namespace ImsStack.Aos

open Platform.AString (Chars)

universe u

inductive IpVersion where
  | unknown | ipv4 | ipv6
  deriving DecidableEq, Repr

/-- `IpAddress`. -/
structure IpAddressClass (Ip : Type u) where
  parse : Chars → Bool
  ofText : Chars → Ip
  version : Ip → IpVersion
  isAnyAddress : Ip → Bool
  equals : Ip → Ip → Bool
  toText : Ip → Chars

inductive DiscoveryMethod where
  | pco | config | isim | other
  deriving DecidableEq, Repr

/-- What an operation is answered when it asks. -/
structure Environment (Ip : Type u) where
  pcscfAddress : IpVersion → List Chars
  localIpVersion : IpVersion
  isLocalAddressValid : IpVersion → Bool
  discoveryMethods : List DiscoveryMethod
  pcscfAddresses : List (Chars × Int)
  pcscfAddressesFromIsim : List Chars
  getHostByName : Chars → IpVersion → Option (List Ip)
  pcscfPort : Int
  defaultPcscfPort : Int

/-- `Pcscf`; the tries are left out. -/
structure Pcscf where
  strAddress : Chars
  nPort : Int
  bIsAvailable : Bool
  bTimer : Bool
  deriving DecidableEq, Repr

namespace Pcscf

def new (strAddress : Chars) (nPort : Int) : Pcscf := ⟨strAddress, nPort, true, false⟩

def setAvailable (pcscf : Pcscf) (bAvailable : Bool) : Pcscf :=
  { pcscf with bIsAvailable := bAvailable, bTimer := pcscf.bTimer && !bAvailable }

def setUnavailableWithDuration (pcscf : Pcscf) (nSeconds : Nat) : Pcscf :=
  { pcscf with bIsAvailable := false, bTimer := pcscf.bTimer || decide (nSeconds > 0) }

/-- The timer blocks the address no longer. -/
def timerExpired (pcscf : Pcscf) : Pcscf :=
  if pcscf.bTimer then { pcscf with bIsAvailable := true, bTimer := false } else pcscf

end Pcscf

structure RetryHost where
  strHost : Chars
  nPort : Int
  nIpVersion : IpVersion
  deriving DecidableEq, Repr

inductive ChangedType where
  | different | reorder
  deriving DecidableEq, Repr

structure AosPcscf where
  nChangedType : ChangedType
  bIsConfigured : Bool
  bIsDnsQueryRetry : Bool
  bOtherIpTypeRequired : Bool
  bDnsQueryRetryTimer : Bool
  nCurrentPcscfIndex : Nat
  nDiscoveryMethodIndex : Nat
  objPcscfList : List Pcscf
  objRetryHostList : List RetryHost
  deriving DecidableEq, Repr

namespace AosPcscf

variable {Ip : Type u} (ips : IpAddressClass Ip) (env : Environment Ip)

def new : AosPcscf := ⟨.different, false, false, false, false, 0, 0, [], []⟩

/-! ### The list -/

def isSamePcscf (objPcscfList : List Pcscf) (objIpa : Ip) (nPort : Int) : Bool :=
  objPcscfList.any fun pcscf =>
    ips.equals (ips.ofText pcscf.strAddress) objIpa && decide (pcscf.nPort = nPort)

/-- `AddPcscf` of a text, unless its address is in the list with the port. -/
def addPcscf (x : AosPcscf) (objIpa : Ip) (strHost : Chars) (nPort : Int) : AosPcscf :=
  if isSamePcscf ips x.objPcscfList objIpa nPort then x
  else { x with objPcscfList := x.objPcscfList ++ [Pcscf.new strHost nPort] }

def clearPcscfList (x : AosPcscf) : AosPcscf := { x with objPcscfList := [] }

def clearDiscoveryContents (x : AosPcscf) : AosPcscf :=
  { x with
    bDnsQueryRetryTimer := false
    objRetryHostList := []
    nDiscoveryMethodIndex := 0
    bIsDnsQueryRetry := false
    bOtherIpTypeRequired := false }

def setFirstPcscfIndex (x : AosPcscf) : AosPcscf := { x with nCurrentPcscfIndex := 0 }

def cleanAll (x : AosPcscf) : AosPcscf :=
  clearDiscoveryContents (setFirstPcscfIndex (clearPcscfList { x with bIsConfigured := false }))

/-- The addresses with their ports, each one once; the ports that are missing are the default
one. -/
def updatePcscfs (x : AosPcscf) (objPcscfs : List Chars) (objPorts : List Int) : AosPcscf :=
  let objPorts := objPorts ++
    List.replicate (objPcscfs.length - objPorts.length) env.defaultPcscfPort
  (objPcscfs.zip objPorts).foldl (fun x pcscf =>
      addPcscf ips x (ips.ofText pcscf.1) (ips.toText (ips.ofText pcscf.1)) pcscf.2)
    (clearPcscfList x)

/-- The private `UpdatePcscfs` with one port for all. -/
def updatePcscfsWithPort (x : AosPcscf) (objPcscfs : List Chars) (nPort : Int) : AosPcscf :=
  objPcscfs.foldl (fun x strPcscf =>
      addPcscf ips x (ips.ofText strPcscf) (ips.toText (ips.ofText strPcscf)) nPort)
    (clearPcscfList x)

/-! ### Discovery -/

def getFromPco (nIpVersion : IpVersion) (x : AosPcscf) : AosPcscf × Bool :=
  match env.pcscfAddress nIpVersion with
  | [] => (x, false)
  | objCurrPcscfs =>
      let x := objCurrPcscfs.foldl (fun x strCurrPcscf =>
        let objIpa := ips.ofText strCurrPcscf
        if !ips.parse strCurrPcscf || decide (ips.version objIpa ≠ nIpVersion) ||
            ips.isAnyAddress objIpa then x
        else addPcscf ips x objIpa (ips.toText objIpa) env.pcscfPort) x
      (x, decide (0 < x.objPcscfList.length))

def processDnsQuery (x : AosPcscf) (host : RetryHost) : AosPcscf :=
  match env.getHostByName host.strHost host.nIpVersion with
  | none =>
      if x.bIsDnsQueryRetry then x
      else
        { x with
          objRetryHostList := x.objRetryHostList ++ [host]
          bDnsQueryRetryTimer := true }
  | some objIpas =>
      objIpas.foldl (fun x objCurrIpa =>
        if decide (ips.version objCurrIpa ≠ host.nIpVersion) || ips.isAnyAddress objCurrIpa then x
        else addPcscf ips x objCurrIpa (ips.toText objCurrIpa) host.nPort) x

def getFromConf (nIpVersion : IpVersion) (x : AosPcscf) : AosPcscf × Bool :=
  match env.pcscfAddresses with
  | [] => (x, false)
  | objHosts =>
      let x := objHosts.foldl (fun x host =>
        let nPort := if host.2 ≤ 0 then env.defaultPcscfPort else host.2
        let objIpa := ips.ofText host.1
        if host.1 = [] then x
        else if ips.version objIpa = nIpVersion then addPcscf ips x objIpa host.1 nPort
        else if ips.version objIpa ≠ .unknown then x
        else processDnsQuery ips env x ⟨host.1, nPort, nIpVersion⟩) x
      (x, decide (0 < x.objPcscfList.length))

def getFromIsim (nIpVersion : IpVersion) (x : AosPcscf) : AosPcscf × Bool :=
  match env.pcscfAddressesFromIsim with
  | [] => (x, false)
  | objPcscfFromIsim =>
      let x := objPcscfFromIsim.foldl (fun x strHost =>
        let objIpaFromIsim := ips.ofText strHost
        if strHost = [] then x
        else if ips.version objIpaFromIsim = nIpVersion then
          addPcscf ips x objIpaFromIsim strHost env.defaultPcscfPort
        else if ips.version objIpaFromIsim ≠ .unknown then x
        else
          ((env.getHostByName strHost nIpVersion).getD []).foldl (fun x objIpa =>
            if ips.isAnyAddress objIpa then x
            else addPcscf ips x objIpa (ips.toText objIpa) env.defaultPcscfPort) x) x
      (x, decide (0 < x.objPcscfList.length))

/-- The loop of `ProcessDiscovery` over the methods that are left. -/
def processMethods (nIpVersion : IpVersion) : List DiscoveryMethod → AosPcscf → AosPcscf
  | [], x => x
  | nDiscoveryMethod :: rest, x =>
      let x := { x with nDiscoveryMethodIndex := x.nDiscoveryMethodIndex + 1 }
      let found : AosPcscf × Bool :=
        match nDiscoveryMethod with
        | .pco => getFromPco ips env nIpVersion x
        | .config => getFromConf ips env nIpVersion x
        | .isim => getFromIsim ips env nIpVersion x
        | .other => (x, false)
      if found.2 then clearDiscoveryContents { found.1 with bIsConfigured := true }
      -- The DNS query is repeated before the methods after the configured addresses.
      else if nDiscoveryMethod = .config ∧ found.1.bDnsQueryRetryTimer then found.1
      else processMethods nIpVersion rest found.1

def processDiscovery (nIpVersion : IpVersion) (x : AosPcscf) : AosPcscf :=
  processMethods ips env nIpVersion (env.discoveryMethods.drop x.nDiscoveryMethodIndex) x

def otherIpType (nIpVersion : IpVersion) : IpVersion :=
  if nIpVersion = .ipv6 then .ipv4 else .ipv6

def configure (nIpVersion : IpVersion) (x : AosPcscf) : AosPcscf :=
  let x := cleanAll x
  if nIpVersion = .ipv4 ∨ nIpVersion = .ipv6 then
    if !env.isLocalAddressValid nIpVersion then x
    else processDiscovery ips env nIpVersion x
  else
    let nIpType := env.localIpVersion
    let x := processDiscovery ips env nIpType { x with bOtherIpTypeRequired := true }
    if !x.bIsConfigured && !x.bDnsQueryRetryTimer &&
        env.isLocalAddressValid (otherIpType nIpType) then
      processDiscovery ips env (otherIpType nIpType) (clearDiscoveryContents x)
    else x

/-- The retry timer; without a host that is asked for the version stays unknown. -/
def processDnsRetryTimerExpired (x : AosPcscf) : AosPcscf :=
  if !x.bDnsQueryRetryTimer then x
  else
    let objRetryHostList := x.objRetryHostList
    let nIpVersion := (objRetryHostList.getLast?.map RetryHost.nIpVersion).getD .unknown
    let x := objRetryHostList.foldl (processDnsQuery ips env)
      { x with bDnsQueryRetryTimer := false, bIsDnsQueryRetry := true }
    if 0 < x.objPcscfList.length then clearDiscoveryContents { x with bIsConfigured := true }
    else
      let x := processDiscovery ips env nIpVersion x
      if !x.bIsConfigured && x.bOtherIpTypeRequired &&
          env.isLocalAddressValid (otherIpType nIpVersion) then
        processDiscovery ips env (otherIpType nIpVersion) (clearDiscoveryContents x)
      else x

/-! ### The current address -/

def setCurrentPcscfInvalid (bIsTimer : Bool) (nSeconds : Nat) (x : AosPcscf) : AosPcscf :=
  { x with
    objPcscfList := x.objPcscfList.modify x.nCurrentPcscfIndex fun pcscf =>
      if bIsTimer then pcscf.setUnavailableWithDuration nSeconds else pcscf.setAvailable false }

def removeCurrentPcscf (x : AosPcscf) : AosPcscf :=
  { x with objPcscfList := x.objPcscfList.eraseIdx x.nCurrentPcscfIndex }

def setAllPcscfValid (x : AosPcscf) : AosPcscf :=
  { x with objPcscfList := x.objPcscfList.map (Pcscf.setAvailable · true) }

def blockTimerExpired (nAt : Nat) (x : AosPcscf) : AosPcscf :=
  { x with objPcscfList := x.objPcscfList.modify nAt Pcscf.timerExpired }

/-- The address and port, if there is a current one.  On an empty list the unsigned difference
is the largest value, and no index is above it. -/
def getCurrentPcscf (x : AosPcscf) : Option (Option (Chars × Int)) :=
  if x.objPcscfList ≠ [] ∧ x.objPcscfList.length - 1 < x.nCurrentPcscfIndex then some none
  else
    match x.objPcscfList[x.nCurrentPcscfIndex]? with
    | none => none
    | some pcscf =>
        some (some (pcscf.strAddress, if pcscf.nPort = 0 then 5060 else pcscf.nPort))

def getFirstPcscf (x : AosPcscf) : AosPcscf × Bool :=
  if x.objPcscfList = [] then (x, false) else ({ x with nCurrentPcscfIndex := 0 }, true)

/-- The first of the indices whose address is available. -/
def scan (objPcscfList : List Pcscf) : List Nat → Option (Option Nat)
  | [] => some none
  | nAt :: rest =>
      match objPcscfList[nAt]? with
      | none => none
      | some pcscf => if pcscf.bIsAvailable then some (some nAt) else scan objPcscfList rest

/-- Under the circular policy the search goes on at the start of the list, up to the current
index. -/
def getNextPcscfIndex (bCircular : Bool) (x : AosPcscf) : Option (Option Nat) :=
  let nFrom := x.nCurrentPcscfIndex + 1
  if x.objPcscfList = [] then some none
  else
    match scan x.objPcscfList (List.range' nFrom (x.objPcscfList.length - nFrom)) with
    | some none =>
        if bCircular then scan x.objPcscfList (List.range (x.nCurrentPcscfIndex + 1))
        else some none
    | found => found

/-- The index that is taken, if there is one. -/
def getNextPcscf (bCircular : Bool) (x : AosPcscf) : Option (Option (Nat × AosPcscf)) :=
  (x.getNextPcscfIndex bCircular).map fun found =>
    found.map fun nAt => (nAt, { x with nCurrentPcscfIndex := nAt })

/-! ### Changes from the network -/

def isStrExistInList (strValue : Chars) (objList : List Chars) : Bool :=
  objList.any fun strCurr => ips.equals (ips.ofText strCurr) (ips.ofText strValue)

/-- `AosUtil::IsListEqual` of addresses, in any order. -/
def isListEqual (objLeft objRight : List Chars) : Bool :=
  decide (objLeft.length = objRight.length) && objLeft.all fun strL =>
    objRight.any fun strR => ips.equals (ips.ofText strL) (ips.ofText strR)

/-- `GetChangedPcscfs`; it is true unless the list is empty. -/
def getChangedPcscfs (nIpVersion : IpVersion) : List Chars :=
  (env.pcscfAddress nIpVersion).foldl (fun objPcscfs strCurrPcscf =>
    let objIpa := ips.ofText strCurrPcscf
    if !ips.parse strCurrPcscf ||
        decide (ips.version objIpa ≠ nIpVersion ∧ nIpVersion ≠ .unknown) ||
        ips.isAnyAddress objIpa || isStrExistInList ips strCurrPcscf objPcscfs then objPcscfs
    else objPcscfs ++ [strCurrPcscf]) []

/-- The list begins with the current address; what follows it in the new list comes next. -/
def processReorder (x : AosPcscf) (strCurrentPcscf : Chars) (objNewPcscfs : List Chars) :
    AosPcscf :=
  let isCurrent strCurr := ips.equals (ips.ofText strCurr) (ips.ofText strCurrentPcscf)
  let objUpdatePcscfs :=
    match objNewPcscfs.findIdx? isCurrent with
    | some nCurrentIndex =>
        strCurrentPcscf :: objNewPcscfs.drop (nCurrentIndex + 1) ++ objNewPcscfs.take nCurrentIndex
    | none => objNewPcscfs.drop 1
  updatePcscfsWithPort ips x objUpdatePcscfs env.pcscfPort

def checkAndProcessChangeFromPco (x : AosPcscf) : Option (AosPcscf × Bool) :=
  match x.getCurrentPcscf with
  | none => none
  | some none => some (x, false)
  | some (some current) =>
      if !ips.parse current.1 then some (x, false)
      else
        match getChangedPcscfs ips env (ips.version (ips.ofText current.1)) with
        | [] =>
            match getChangedPcscfs ips env .unknown with
            | [] => some (x, false)
            | objNewPcscfs =>
                some (setFirstPcscfIndex
                  { updatePcscfsWithPort ips x objNewPcscfs env.pcscfPort with
                    nChangedType := .different }, true)
        | objNewPcscfs =>
            if isListEqual ips (x.objPcscfList.map Pcscf.strAddress) objNewPcscfs then
              some (x, false)
            else if isStrExistInList ips current.1 objNewPcscfs then
              some (setFirstPcscfIndex
                { processReorder ips env x current.1 objNewPcscfs with
                  nChangedType := .reorder }, true)
            else
              some (setFirstPcscfIndex
                { updatePcscfsWithPort ips x objNewPcscfs env.pcscfPort with
                  nChangedType := .different }, true)

end AosPcscf

end ImsStack.Aos
