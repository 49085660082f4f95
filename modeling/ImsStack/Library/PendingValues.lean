import Mathlib.Data.List.DropRight
import Mathlib.Data.List.Nodup

/-!
A value that follows proposals.  Proposals of a new value arrive one after another, each
under a key of its own, and are accepted or refused later, in any order.  The value in
force is that of the newest accepted proposal; those that are older than it have nothing
to say any more, whatever becomes of them.

A register keeps the value in force and the proposals that may still replace it.  It
follows the history of all proposals without remembering it.
-/

namespace PendingValues

universe u v

inductive Verdict where
  | accepted
  | refused
  deriving DecidableEq, Repr

/-- A proposal and what has become of it. -/
structure Proposal (κ : Type u) (α : Type v) where
  key : κ
  value : α
  verdict : Option Verdict
  deriving DecidableEq, Repr

/-- All proposals, the newest at the end. -/
abbrev History (κ : Type u) (α : Type v) := List (Proposal κ α)

variable {κ : Type u} {α : Type v}

namespace Proposal

def isAccepted (p : Proposal κ α) : Bool := p.verdict == some .accepted

def isOpen (p : Proposal κ α) : Bool := p.verdict == none

def binding (p : Proposal κ α) : κ × α := (p.key, p.value)

/-- The first verdict on a proposal stands. -/
def judge [DecidableEq κ] (key : κ) (verdict : Verdict) (p : Proposal κ α) : Proposal κ α :=
  if p.key = key ∧ p.verdict = none then { p with verdict := some verdict } else p

end Proposal

namespace History

def keys (h : History κ α) : List κ := h.map (·.key)

/-- The value of the newest accepted proposal, or the value before all of them. -/
def inForce (initial : α) (h : History κ α) : α :=
  ((h.filter (·.isAccepted)).getLast?.map (·.value)).getD initial

/-- The proposals that are newer than the one in force. -/
def newer (h : History κ α) : History κ α := h.rtakeWhile (!·.isAccepted)

/-- Those of them that have no verdict yet. -/
def stillOpen (h : History κ α) : List (κ × α) :=
  ((newer h).filter (·.isOpen)).map (·.binding)

def propose (h : History κ α) (key : κ) (value : α) : History κ α := h ++ [⟨key, value, none⟩]

def judge [DecidableEq κ] (h : History κ α) (key : κ) (verdict : Verdict) : History κ α :=
  h.map (·.judge key verdict)

theorem inForce_concat (initial : α) (h : History κ α) (p : Proposal κ α) :
    inForce initial (h ++ [p]) = if p.isAccepted then p.value else inForce initial h := by
  cases hp : p.isAccepted <;> simp [inForce, List.filter_append, hp]

theorem stillOpen_concat (h : History κ α) (p : Proposal κ α) :
    stillOpen (h ++ [p]) =
      if p.isAccepted then []
      else if p.isOpen then stillOpen h ++ [p.binding] else stillOpen h := by
  cases hp : p.isAccepted
  · cases ho : p.isOpen <;> simp [stillOpen, newer, hp, ho]
  · simp [stillOpen, newer, hp]

theorem stillOpen_keys_subset (h : History κ α) :
    ∀ b ∈ stillOpen h, b.1 ∈ keys h := by
  intro b hb
  simp only [stillOpen, List.mem_map, List.mem_filter] at hb
  obtain ⟨p, ⟨hp, -⟩, rfl⟩ := hb
  have hmem : p ∈ h := (List.rtakeWhile_suffix _ h).subset hp
  exact List.mem_map_of_mem hmem

variable [DecidableEq κ]

theorem keys_judge (h : History κ α) (key : κ) (verdict : Verdict) :
    keys (judge h key verdict) = keys h := by
  induction h with
  | nil => rfl
  | cons p h ih =>
      simp only [keys, judge, List.map_cons, List.cons.injEq] at ih ⊢
      refine ⟨?_, ih⟩
      unfold Proposal.judge
      split <;> rfl

theorem judge_concat (h : History κ α) (p : Proposal κ α) (key : κ) (verdict : Verdict) :
    judge (h ++ [p]) key verdict = judge h key verdict ++ [p.judge key verdict] := by
  simp [judge]

theorem judge_of_notMem (h : History κ α) {key : κ} (verdict : Verdict)
    (hkey : key ∉ keys h) : judge h key verdict = h := by
  induction h with
  | nil => rfl
  | cons p h ih =>
      simp only [keys, List.map_cons, List.mem_cons, not_or] at hkey
      have hp : p.judge key verdict = p := if_neg fun hp => hkey.1 hp.1.symm
      have hrest := ih hkey.2
      simp only [judge, List.map_cons, hp] at hrest ⊢
      rw [hrest]

end History

/-- The value in force and the proposals that may replace it, the newest at the end. -/
structure Register (κ : Type u) (α : Type v) where
  current : α
  pending : List (κ × α)
  deriving DecidableEq, Repr

namespace Register

def propose (r : Register κ α) (key : κ) (value : α) : Register κ α :=
  { r with pending := r.pending ++ [(key, value)] }

/-- A refused proposal is dropped. -/
def refuse [DecidableEq κ] (r : Register κ α) (key : κ) : Register κ α :=
  { r with pending := r.pending.eraseP (·.1 = key) }

/-- An accepted proposal comes into force, and those before it are dropped with it. -/
def accept [DecidableEq κ] (r : Register κ α) (key : κ) : Register κ α :=
  match r.pending.dropWhile (·.1 ≠ key) with
  | [] => r
  | (_, value) :: rest => ⟨value, rest⟩

/-- The register of a history. -/
def ofHistory (initial : α) (h : History κ α) : Register κ α := ⟨h.inForce initial, h.stillOpen⟩

theorem ofHistory_propose (initial : α) (h : History κ α) (key : κ) (value : α) :
    ofHistory initial (h.propose key value) = (ofHistory initial h).propose key value := by
  rw [ofHistory, History.propose, History.inForce_concat, History.stillOpen_concat]
  rfl

theorem stillOpen_notMem {h : History κ α} {key : κ} (hkey : key ∉ History.keys h) :
    ∀ b ∈ History.stillOpen h, b.1 ≠ key := by
  intro b hb heq
  exact hkey (heq ▸ History.stillOpen_keys_subset h b hb)

theorem nodup_keys_concat {h : History κ α} {p : Proposal κ α}
    (hkeys : (History.keys (h ++ [p])).Nodup) : (History.keys h).Nodup ∧ p.key ∉ History.keys h := by
  simp only [History.keys, List.map_append, List.map_cons, List.map_nil,
    List.nodup_append] at hkeys
  refine ⟨hkeys.1, ?_⟩
  intro hmem
  exact hkeys.2.2 _ hmem _ (List.mem_singleton.mpr rfl) rfl

section Verdicts

variable [DecidableEq κ]

theorem accept_of_notMem {r : Register κ α} {key : κ} (hkey : ∀ b ∈ r.pending, b.1 ≠ key) :
    r.accept key = r := by
  have hdrop : r.pending.dropWhile (·.1 ≠ key) = [] := by
    rw [List.dropWhile_eq_nil_iff]
    intro b hb
    simpa using hkey b hb
  simp only [accept, hdrop]

theorem refuse_of_notMem {r : Register κ α} {key : κ} (hkey : ∀ b ∈ r.pending, b.1 ≠ key) :
    r.refuse key = r := by
  have herase : r.pending.eraseP (·.1 = key) = r.pending := by
    apply List.eraseP_of_forall_not
    intro b hb
    simpa using hkey b hb
  simp only [refuse, herase]

theorem accept_concat_self (current value : α) (pending : List (κ × α)) {key : κ}
    (hkey : ∀ b ∈ pending, b.1 ≠ key) :
    (⟨current, pending ++ [(key, value)]⟩ : Register κ α).accept key = ⟨value, []⟩ := by
  have hdrop : (pending ++ [(key, value)]).dropWhile (·.1 ≠ key) = [(key, value)] := by
    rw [List.dropWhile_append_of_pos fun b hb => by simpa using hkey b hb]
    simp
  simp only [accept, hdrop]

theorem refuse_concat_self (current value : α) (pending : List (κ × α)) {key : κ}
    (hkey : ∀ b ∈ pending, b.1 ≠ key) :
    (⟨current, pending ++ [(key, value)]⟩ : Register κ α).refuse key = ⟨current, pending⟩ := by
  have herase : (pending ++ [(key, value)]).eraseP (·.1 = key) = pending := by
    rw [List.eraseP_append_right _ fun b hb => by simpa using hkey b hb]
    simp
  simp only [refuse, herase]

theorem accept_concat_of_ne (current : α) (pending : List (κ × α)) {key : κ} {b : κ × α}
    (hb : b.1 ≠ key) :
    (⟨current, pending ++ [b]⟩ : Register κ α).accept key =
      ⟨((⟨current, pending⟩ : Register κ α).accept key).current,
        ((⟨current, pending⟩ : Register κ α).accept key).pending ++ [b]⟩ := by
  have hdrop : [b].dropWhile (·.1 ≠ key) = [] := by simp [hb]
  cases hrest : pending.dropWhile (·.1 ≠ key) with
  | nil => simp only [accept, List.dropWhile_append, hrest, hdrop, List.isEmpty_nil, ↓reduceIte]
  | cons first rest =>
      simp only [accept, List.dropWhile_append, hrest, List.isEmpty_cons, Bool.false_eq_true,
        ↓reduceIte, List.cons_append]

theorem refuse_concat_of_ne (current : α) (pending : List (κ × α)) {key : κ} {b : κ × α}
    (hb : b.1 ≠ key) :
    (⟨current, pending ++ [b]⟩ : Register κ α).refuse key =
      ⟨current, ((⟨current, pending⟩ : Register κ α).refuse key).pending ++ [b]⟩ := by
  have herase : (pending ++ [b]).eraseP (·.1 = key) = pending.eraseP (·.1 = key) ++ [b] := by
    rw [List.eraseP_append]
    split
    · rfl
    · rename_i hnone
      rw [List.eraseP_of_forall_not (by simpa using hb), List.eraseP_of_forall_not]
      intro c hc heq
      exact hnone (List.any_eq_true.mpr ⟨c, hc, heq⟩)
  simp only [refuse, herase]

/-- What a verdict does to the register. -/
def judge (r : Register κ α) (key : κ) : Verdict → Register κ α
  | .accepted => r.accept key
  | .refused => r.refuse key

theorem judge_of_notMem {r : Register κ α} {key : κ} (verdict : Verdict)
    (hkey : ∀ b ∈ r.pending, b.1 ≠ key) : r.judge key verdict = r := by
  cases verdict with
  | accepted => exact accept_of_notMem hkey
  | refused => exact refuse_of_notMem hkey

theorem judge_concat_of_ne {initial : α} {h h' : History κ α} {key : κ} {b : κ × α}
    (verdict : Verdict) (hb : b.1 ≠ key)
    (hh' : ofHistory initial h' = (ofHistory initial h).judge key verdict) :
    (⟨History.inForce initial h, History.stillOpen h ++ [b]⟩ : Register κ α).judge key verdict =
      ⟨History.inForce initial h', History.stillOpen h' ++ [b]⟩ := by
  cases verdict with
  | accepted =>
      have hconcat := accept_concat_of_ne (History.inForce initial h) (History.stillOpen h) hb
      change ofHistory initial h' = (⟨_, _⟩ : Register κ α).accept key at hh'
      rw [← hh'] at hconcat
      exact hconcat
  | refused =>
      have hconcat := refuse_concat_of_ne (History.inForce initial h) (History.stillOpen h) hb
      change ofHistory initial h' = (⟨_, _⟩ : Register κ α).refuse key at hh'
      have hcurrent : History.inForce initial h' = History.inForce initial h :=
        congrArg current hh'
      rw [← hh'] at hconcat
      rw [hcurrent]
      exact hconcat

/-- A verdict on the register is a verdict on the history: one that comes after a newer
proposal has been accepted changes nothing. -/
theorem ofHistory_judge (initial : α) (h : History κ α) (key : κ) (verdict : Verdict)
    (hkeys : (History.keys h).Nodup) :
    ofHistory initial (History.judge h key verdict) =
      (ofHistory initial h).judge key verdict := by
  induction h using List.reverseRecOn with
  | nil => cases verdict <;> rfl
  | append_singleton h p ih =>
      obtain ⟨hkeys, hnotMem⟩ := nodup_keys_concat hkeys
      have hnone := stillOpen_notMem hnotMem
      have hlast : ofHistory initial (h ++ [p]) =
          ⟨if p.isAccepted then p.value else History.inForce initial h,
            if p.isAccepted then []
            else if p.isOpen then History.stillOpen h ++ [p.binding]
            else History.stillOpen h⟩ := by
        rw [ofHistory, History.inForce_concat, History.stillOpen_concat]
      rcases eq_or_ne p.key key with rfl | hne
      · rcases p with ⟨key, value, _ | old⟩
        · rw [History.judge_concat, History.judge_of_notMem h verdict hnotMem, hlast]
          cases verdict with
          | accepted =>
              rw [ofHistory, History.inForce_concat, History.stillOpen_concat]
              simpa [Proposal.judge, Proposal.isAccepted, Proposal.isOpen, Proposal.binding, judge]
                using (accept_concat_self _ value _ hnone).symm
          | refused =>
              rw [ofHistory, History.inForce_concat, History.stillOpen_concat]
              simpa [Proposal.judge, Proposal.isAccepted, Proposal.isOpen, Proposal.binding, judge]
                using (refuse_concat_self _ value _ hnone).symm
        · have hjudge : (⟨key, value, some old⟩ : Proposal κ α).judge key verdict =
              ⟨key, value, some old⟩ := if_neg (by simp)
          rw [History.judge_concat, History.judge_of_notMem h verdict hnotMem, hjudge, hlast]
          refine (judge_of_notMem verdict ?_).symm
          cases old with
          | accepted => simp [Proposal.isAccepted]
          | refused => simpa [Proposal.isAccepted, Proposal.isOpen] using hnone
      · have hjudge : p.judge key verdict = p := if_neg fun hp => hne hp.1
        rw [History.judge_concat, hjudge, hlast, ofHistory, History.inForce_concat,
          History.stillOpen_concat]
        cases haccepted : p.isAccepted with
        | true => exact (judge_of_notMem verdict (by simp)).symm
        | false =>
            cases hopen : p.isOpen with
            | true => exact (judge_concat_of_ne verdict hne (ih hkeys)).symm
            | false => exact ih hkeys

end Verdicts

end Register

end PendingValues
