/-!
Ranks: sequences of counters of one length, compared from the left.  They measure a stack whose
height is bounded, bottom first: the counter of an absent entry is zero, that of a present entry is
one more than the work it has left, so a stack gets smaller when an entry is taken off and also when
an entry does some work and any entry is put on top of it.
-/
namespace Stencil.Expansion

/-- So many counters. -/
def Rank : Nat → Type
  | 0 => Unit
  | n + 1 => Nat × Rank n

namespace Rank

/-- Smaller at the first place where two ranks differ. -/
def Less : (n : Nat) → Rank n → Rank n → Prop
  | 0, _, _ => False
  | n + 1, a, b => Prod.Lex (· < ·) (Less n) a b

theorem less_wellFounded : (n : Nat) → WellFounded (Less n)
  | 0 => ⟨fun a => ⟨a, fun _ smaller => smaller.elim⟩⟩
  | n + 1 =>
    (Prod.lex ⟨(· < ·), Nat.lt_wfRel.wf⟩ ⟨Less n, less_wellFounded n⟩).wf

instance (n : Nat) : WellFoundedRelation (Rank n) :=
  ⟨Less n, less_wellFounded n⟩

/-- The rank of the work left in the entries of a stack, bottom first. -/
def ofList : (n : Nat) → List Nat → Rank n
  | 0, _ => ()
  | n + 1, [] => (0, ofList n [])
  | n + 1, work :: others => (work + 1, ofList n others)

/-- A stack gets smaller when its top entry does some work and another one is put on top. -/
theorem less_push
    {n : Nat}
    (below : List Nat)
    {before after : Nat}
    (new : Nat)
    (worked : after < before)
    (fits : below.length < n) :
    Less n (ofList n (below ++ [after, new])) (ofList n (below ++ [before])) := by
  induction below generalizing n with
  | nil =>
      cases n with
      | zero => simp at fits
      | succ n => exact Prod.Lex.left _ _ (Nat.succ_lt_succ worked)
  | cons entry below ih =>
      cases n with
      | zero => simp at fits
      | succ n => exact Prod.Lex.right _ (ih (Nat.lt_of_succ_lt_succ fits))

theorem less_pop
    {n : Nat}
    (below : List Nat)
    (top : Nat)
    (fits : below.length < n) :
    Less n (ofList n below) (ofList n (below ++ [top])) := by
  induction below generalizing n with
  | nil =>
      cases n with
      | zero => simp at fits
      | succ n => exact Prod.Lex.left _ _ (Nat.succ_pos top)
  | cons entry below ih =>
      cases n with
      | zero => simp at fits
      | succ n => exact Prod.Lex.right _ (ih (Nat.lt_of_succ_lt_succ fits))

end Rank

end Stencil.Expansion
