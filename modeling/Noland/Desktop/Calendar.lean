import Mathlib.Algebra.BigOperators.Intervals
import Mathlib.Algebra.Order.BigOperators.Group.Finset
import Mathlib.Data.Nat.Find
import Mathlib.Order.Interval.Finset.Nat

/-!
`month_key` and `start_of_next_month` of `models/spend.rs`, with the part of the calendar that
they take from chrono. Times are milliseconds from the start of 1970. A month is the number of
months from the year 0; up to the year 9999 the order of these numbers is that of their texts.
-/

namespace Noland.Desktop

def isLeapYear (year : Nat) : Bool :=
  year % 4 == 0 && (year % 100 != 0 || year % 400 == 0)

def daysInMonth (month : Nat) : Nat :=
  match month % 12 with
  | 1 => if isLeapYear (month / 12) then 29 else 28
  | 3 | 5 | 8 | 10 => 30
  | _ => 31

def dayMilliseconds : Nat := 24 * 60 * 60 * 1000

def epochMonth : Nat := 1970 * 12

def monthStart : Nat → Nat
  | 0 => 0
  | month + 1 => monthStart month + daysInMonth (epochMonth + month) * dayMilliseconds

def monthOf (time : Nat) : Nat :=
  Nat.findGreatest (fun month => monthStart month ≤ time) (time / (28 * dayMilliseconds))

def monthKey (time : Nat) : Nat := epochMonth + monthOf time

def startOfNextMonth (time : Nat) : Nat := monthStart (monthOf time + 1)

theorem daysInMonth_ge (month : Nat) : 28 ≤ daysInMonth month := by
  unfold daysInMonth
  split
  · split <;> decide
  all_goals decide

theorem monthStart_lt_succ (month : Nat) : monthStart month < monthStart (month + 1) := by
  have days := daysInMonth_ge (epochMonth + month)
  simp only [monthStart, dayMilliseconds]
  omega

theorem monthStart_strictMono : StrictMono monthStart :=
  strictMono_nat_of_lt_succ monthStart_lt_succ

theorem shortMonths_le_monthStart (month : Nat) :
    month * (28 * dayMilliseconds) ≤ monthStart month := by
  induction month with
  | zero => simp [monthStart]
  | succ month ih =>
      rw [Nat.succ_mul]
      exact Nat.add_le_add ih (Nat.mul_le_mul_right _ (daysInMonth_ge (epochMonth + month)))

theorem monthStart_monthOf_le (time : Nat) : monthStart (monthOf time) ≤ time :=
  Nat.findGreatest_spec (P := fun month => monthStart month ≤ time) (Nat.zero_le _)
    (Nat.zero_le time)

theorem lt_startOfNextMonth (time : Nat) : time < startOfNextMonth time := by
  by_contra notLess
  have reached : monthStart (monthOf time + 1) ≤ time := Nat.le_of_not_lt notLess
  have bounded : monthOf time + 1 ≤ time / (28 * dayMilliseconds) := by
    apply (Nat.le_div_iff_mul_le (by decide)).mpr
    exact (shortMonths_le_monthStart _).trans reached
  have greatest : monthOf time + 1 ≤ monthOf time := Nat.le_findGreatest bounded reached
  omega

theorem monthOf_eq {month time : Nat} (starts : monthStart month ≤ time)
    (ends : time < monthStart (month + 1)) : monthOf time = month := by
  have before : monthOf time < month + 1 :=
    monthStart_strictMono.lt_iff_lt.mp ((monthStart_monthOf_le time).trans_lt ends)
  have after : month < monthOf time + 1 :=
    monthStart_strictMono.lt_iff_lt.mp (starts.trans_lt (lt_startOfNextMonth time))
  omega

theorem monthKey_mono {earlier later : Nat} (le : earlier ≤ later) :
    monthKey earlier ≤ monthKey later := by
  have before : monthOf earlier < monthOf later + 1 :=
    monthStart_strictMono.lt_iff_lt.mp
      (((monthStart_monthOf_le earlier).trans le).trans_lt (lt_startOfNextMonth later))
  unfold monthKey
  omega

theorem monthKey_eq_of_lt {start time : Nat} (le : start ≤ time)
    (before : time < startOfNextMonth start) : monthKey time = monthKey start := by
  unfold monthKey
  rw [monthOf_eq ((monthStart_monthOf_le start).trans le) before]

example : (monthKey 1709251199999, monthKey 1709251200000) =
    (2024 * 12 + 1, 2024 * 12 + 2) := by
  decide +kernel

def timeIn (start stop month : Nat) : Nat :=
  ((Finset.Ico start stop).filter fun time => monthKey time = month).card

theorem timeIn_of_le {start stop : Nat} (le : stop ≤ start) (month : Nat) :
    timeIn start stop month = 0 := by
  simp [timeIn, Finset.Ico_eq_empty_of_le le]

theorem timeIn_append {start middle stop : Nat} (first : start ≤ middle) (second : middle ≤ stop)
    (month : Nat) :
    timeIn start stop month = timeIn start middle month + timeIn middle stop month := by
  unfold timeIn
  rw [← Finset.Ico_union_Ico_eq_Ico first second, Finset.filter_union]
  apply Finset.card_union_of_disjoint
  exact Finset.disjoint_filter_filter (Finset.Ico_disjoint_Ico_consecutive start middle stop)

theorem timeIn_segment {start stop : Nat} (within : stop ≤ startOfNextMonth start) (month : Nat) :
    timeIn start stop month = if monthKey start = month then stop - start else 0 := by
  have inMonth : ∀ time ∈ Finset.Ico start stop, monthKey time = monthKey start := by
    intro time member
    obtain ⟨le, lt⟩ := Finset.mem_Ico.mp member
    exact monthKey_eq_of_lt le (lt.trans_le within)
  unfold timeIn
  split
  · next same =>
    rw [Finset.filter_true_of_mem fun time member => (inMonth time member).trans same]
    exact Nat.card_Ico start stop
  · next different =>
    rw [Finset.filter_false_of_mem fun time member same =>
      different ((inMonth time member).symm.trans same)]
    rfl

theorem timeIn_pos {start stop month : Nat} (positive : 0 < timeIn start stop month) :
    monthKey start ≤ month ∧ month ≤ monthKey stop := by
  obtain ⟨time, member⟩ := Finset.card_pos.mp positive
  obtain ⟨inside, same⟩ := Finset.mem_filter.mp member
  obtain ⟨le, lt⟩ := Finset.mem_Ico.mp inside
  exact ⟨same ▸ monthKey_mono le, same ▸ monthKey_mono lt.le⟩

theorem sum_timeIn (start stop : Nat) :
    ∑ month ∈ Finset.Icc (monthKey start) (monthKey stop), timeIn start stop month =
      stop - start := by
  rw [← Nat.card_Ico start stop]
  symm
  apply Finset.card_eq_sum_card_fiberwise
  intro time member
  obtain ⟨le, lt⟩ := Finset.mem_Ico.mp (Finset.mem_coe.mp member)
  exact Finset.mem_coe.mpr (Finset.mem_Icc.mpr ⟨monthKey_mono le, monthKey_mono lt.le⟩)

end Noland.Desktop
