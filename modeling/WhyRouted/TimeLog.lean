import Mathlib.Data.List.Sort
import WhyRouted.CodeUnits

/-! # Logs queried by a time window

`query` of `src/events/failover-log.ts` and of `src/decisions/decision-log.ts`, which are the
same function over different entries: the entries whose time stamp lies between two optional
bounds, both inclusive, in ascending order, and in order of recording where they are stamped
alike.  Stamps and bounds are compared as strings. -/

namespace WhyRouted

/-- `{ from?, to? }`. -/
structure Bounds where
  fromTime : Option String
  toTime : Option String
deriving DecidableEq, Repr

def Bounds.contains (range : Bounds) (stamp : String) : Bool :=
  range.fromTime.all (fun lo => !codeUnitLt stamp lo) &&
    range.toTime.all (fun hi => !codeUnitLt hi stamp)

variable {α : Type} (stamp : α → String)

/-- The order of the sort: not later. -/
def NotLater (a b : α) : Prop := codeUnitLt (stamp b) (stamp a) = false

instance : DecidableRel (NotLater stamp) := fun _ _ => inferInstanceAs (Decidable (_ = false))

/-- The entries within the bounds, oldest first. -/
def queryRange (log : List α) (range : Bounds) : List α :=
  (log.filter fun a => range.contains (stamp a)).insertionSort (NotLater stamp)

variable {stamp} {log : List α} {range : Bounds} {a : α}

theorem queryRange_perm (stamp : α → String) (log : List α) (range : Bounds) :
    (queryRange stamp log range).Perm (log.filter fun a => range.contains (stamp a)) :=
  List.perm_insertionSort _ _

theorem mem_queryRange_iff :
    a ∈ queryRange stamp log range ↔ a ∈ log ∧ range.contains (stamp a) = true := by
  rw [(queryRange_perm stamp log range).mem_iff, List.mem_filter]

theorem queryRange_eq_nil_iff :
    queryRange stamp log range = [] ↔ ∀ a ∈ log, range.contains (stamp a) = false := by
  rw [List.eq_nil_iff_forall_not_mem]
  simp only [mem_queryRange_iff, not_and, Bool.not_eq_true]

theorem queryRange_filter {keep : α → Bool}
    (h : ∀ a ∈ log, range.contains (stamp a) = true → keep a = true) :
    queryRange stamp (log.filter keep) range = queryRange stamp log range := by
  unfold queryRange
  congr 1
  rw [List.filter_filter]
  apply List.filter_congr
  intro a ha
  cases hc : range.contains (stamp a) with
  | false => rfl
  | true => rw [h a ha hc]; rfl

end WhyRouted
