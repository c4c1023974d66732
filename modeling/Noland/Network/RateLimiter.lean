import Mathlib.Algebra.Order.Field.Rat
import Mathlib.Data.List.TakeWhile
import Mathlib.Tactic.Linarith

/-!
The limiter keeps the times of the packets it admitted in the last second. It drops the times
that are a second old from the front, and admits a packet while fewer than the limit are left.
-/

namespace Noland.Network

def oneSecond : Nat := 1000000000

structure RateLimiter where
  limit : Nat
  recent : List Nat

namespace RateLimiter

def new (limit : Nat) : RateLimiter := { limit := limit, recent := [] }

def allow (limiter : RateLimiter) (now : Nat) : Bool × RateLimiter :=
  let recent := limiter.recent.dropWhile fun seen => oneSecond ≤ now - seen
  if limiter.limit ≤ recent.length then (false, { limiter with recent := recent })
  else (true, { limiter with recent := recent ++ [now] })

def calls (limiter : RateLimiter) : List Nat → List (Nat × Bool) × RateLimiter
  | [] => ([], limiter)
  | now :: later =>
      let answer := limiter.allow now
      let rest := answer.2.calls later
      ((now, answer.1) :: rest.1, rest.2)

def admitted (answered : List (Nat × Bool)) : List Nat :=
  (answered.filter Prod.snd).map Prod.fst

def lately (admissions : List Nat) (now : Nat) : Nat :=
  admissions.countP fun seen => now < seen + oneSecond

def Short (window : Nat → Bool) : Prop :=
  ∀ seen other, window seen = true → window other = true → seen < other + oneSecond

theorem short_closed_open (start : ℚ) :
    Short fun seen => start ≤ seen ∧ (seen : ℚ) < start + oneSecond := by
  intro seen other inside contained
  rw [decide_eq_true_eq] at inside contained
  have apart : (seen : ℚ) < other + oneSecond := by linarith
  exact_mod_cast apart

theorem short_open_closed (start : ℚ) :
    Short fun seen => start < seen ∧ (seen : ℚ) ≤ start + oneSecond := by
  intro seen other inside contained
  rw [decide_eq_true_eq] at inside contained
  have apart : (seen : ℚ) < other + oneSecond := by linarith
  exact_mod_cast apart

/-- The queue is the end of the admissions up to a time, and the rest of them is a second old. -/
structure Follows (limiter : RateLimiter) (admissions : List Nat) (last : Nat) : Prop where
  recent : ∃ old, admissions = old ++ limiter.recent ∧ ∀ seen ∈ old, seen + oneSecond ≤ last
  ordered : admissions.Pairwise (· ≤ ·)
  past : ∀ seen ∈ admissions, seen ≤ last
  bounded : limiter.recent.length ≤ limiter.limit
  windows : ∀ window, Short window → admissions.countP window ≤ limiter.limit

theorem follows_new (limit : Nat) : (new limit).Follows [] 0 where
  recent := ⟨[], rfl, nofun⟩
  ordered := List.Pairwise.nil
  past := nofun
  bounded := Nat.zero_le limit
  windows _ _ := Nat.zero_le limit

variable {limiter : RateLimiter} {admissions : List Nat} {last now : Nat}

theorem kept_recent (follows : limiter.Follows admissions last) (later : last ≤ now) :
    ∃ old, admissions = old ++ limiter.recent.dropWhile (fun seen => oneSecond ≤ now - seen) ∧
      (∀ seen ∈ old, seen + oneSecond ≤ now) ∧
      ∀ seen ∈ limiter.recent.dropWhile (fun seen => oneSecond ≤ now - seen),
        now < seen + oneSecond := by
  obtain ⟨old, split, aged⟩ := follows.recent
  have ordered := follows.ordered
  have past := follows.past
  rw [split] at ordered past
  have parts := List.takeWhile_append_dropWhile (p := fun seen => oneSecond ≤ now - seen)
    (l := limiter.recent)
  refine ⟨old ++ limiter.recent.takeWhile fun seen => oneSecond ≤ now - seen, ?_, ?_, ?_⟩
  · rw [List.append_assoc, parts, split]
  · intro seen member
    rcases List.mem_append.mp member with before | dropped
    · exact (aged seen before).trans later
    · have enough : oneSecond ≤ now - seen := by
        simpa using List.mem_takeWhile_imp dropped
      have positive : 0 < oneSecond := by decide
      omega
  · have sorted := (List.pairwise_append.mp ordered).2.1
    rw [← parts] at sorted
    have kept := (List.pairwise_append.mp sorted).2.1
    cases rest : limiter.recent.dropWhile (fun seen => oneSecond ≤ now - seen) with
    | nil => exact nofun
    | cons first others =>
        rw [rest] at kept
        have young : ¬ oneSecond ≤ now - first := by
          have stopped := List.head_dropWhile_not (fun seen => decide (oneSecond ≤ now - seen))
            (l := limiter.recent) (by rw [rest]; exact List.cons_ne_nil _ _)
          simp only [rest, List.head_cons, decide_eq_false_iff_not] at stopped
          exact stopped
        intro seen member
        have least : first ≤ seen := by
          rcases List.mem_cons.mp member with rfl | behind
          · exact Nat.le_refl _
          · exact (List.pairwise_cons.mp kept).1 seen behind
        omega

theorem lately_eq (follows : limiter.Follows admissions last) (later : last ≤ now) :
    (limiter.recent.dropWhile fun seen => oneSecond ≤ now - seen).length =
      lately admissions now := by
  obtain ⟨old, split, aged, young⟩ := kept_recent follows later
  unfold lately
  rw [split, List.countP_append]
  have none : old.countP (fun seen => now < seen + oneSecond) = 0 := by
    rw [List.countP_eq_zero]
    intro seen member
    simpa using aged seen member
  have all := List.countP_eq_length.mpr fun seen member => decide_eq_true (young seen member)
  rw [none, Nat.zero_add]
  exact all.symm

theorem allow_follows (follows : limiter.Follows admissions last) (later : last ≤ now) :
    (limiter.allow now).2.limit = limiter.limit ∧
      (limiter.allow now).2.Follows
        (admissions ++ if (limiter.allow now).1 then [now] else []) now ∧
      ((limiter.allow now).1 = false → lately admissions now = limiter.limit) := by
  obtain ⟨old, split, aged, young⟩ := kept_recent follows later
  have number := lately_eq follows later
  have shorter := (List.dropWhile_suffix (fun seen => decide (oneSecond ≤ now - seen))
    (l := limiter.recent)).length_le
  have room := follows.bounded
  have past : ∀ seen ∈ admissions, seen ≤ now := fun seen member =>
    (follows.past seen member).trans later
  unfold allow
  by_cases full : limiter.limit ≤
      (limiter.recent.dropWhile fun seen => oneSecond ≤ now - seen).length
  · rw [if_pos full]
    refine ⟨rfl, ?_, fun _ => by omega⟩
    rw [if_neg Bool.false_ne_true, List.append_nil]
    exact ⟨⟨old, split, aged⟩, follows.ordered, past, shorter.trans room, follows.windows⟩
  · rw [if_neg full]
    refine ⟨rfl, ?_, fun refused => (Bool.true_eq_false.mp refused).elim⟩
    rw [if_pos rfl]
    constructor
    · exact ⟨old, by rw [← List.append_assoc, ← split], aged⟩
    · refine List.pairwise_append.mpr ⟨follows.ordered, List.pairwise_singleton _ _, ?_⟩
      intro seen member other single
      rw [List.mem_singleton.mp single]
      exact past seen member
    · intro seen member
      rcases List.mem_append.mp member with before | single
      · exact past seen before
      · exact Nat.le_of_eq (List.mem_singleton.mp single)
    · dsimp only
      rw [List.length_append, List.length_singleton]
      omega
    · intro window short
      rw [List.countP_append, List.countP_singleton]
      by_cases inside : window now = true
      · -- The admissions in a window with this packet are among the last ones.
        have among : admissions.countP window ≤ lately admissions now := by
          apply List.countP_mono_left
          intro seen _ contained
          exact decide_eq_true (short now seen inside contained)
        rw [if_pos inside]
        exact (Nat.add_le_add_right among 1).trans (by dsimp only; omega)
      · rw [if_neg inside]
        exact follows.windows window short

theorem calls_follow {times : List Nat} (follows : limiter.Follows admissions last)
    (ordered : (last :: times).Pairwise (· ≤ ·)) :
    (∃ final, (limiter.calls times).2.Follows (admissions ++ admitted (limiter.calls times).1)
        final) ∧ (limiter.calls times).2.limit = limiter.limit ∧
      ∀ before now after, (limiter.calls times).1 = before ++ (now, false) :: after →
        lately (admissions ++ admitted before) now = limiter.limit := by
  induction times generalizing limiter admissions last with
  | nil =>
      refine ⟨⟨last, ?_⟩, rfl, ?_⟩
      · exact (List.append_nil admissions).symm ▸ follows
      · intro before now after same
        cases before <;> cases same
  | cons now rest ih =>
      obtain ⟨first, others⟩ := List.pairwise_cons.mp ordered
      obtain ⟨same, next, refused⟩ := allow_follows follows (first now List.mem_cons_self)
      obtain ⟨⟨final, holds⟩, kept, exact⟩ := ih next others
      have listed : ∀ answered : List (Nat × Bool),
          admitted ((now, (limiter.allow now).1) :: answered) =
            (if (limiter.allow now).1 then [now] else []) ++ admitted answered := by
        intro answered
        unfold admitted
        cases (limiter.allow now).1 <;> rfl
      refine ⟨⟨final, ?_⟩, kept.trans same, ?_⟩
      · unfold calls
        rw [listed, ← List.append_assoc]
        exact holds
      · intro before time after split
        unfold calls at split
        cases before with
        | nil =>
            obtain ⟨head, _⟩ := List.cons.inj split
            obtain ⟨rfl, answer⟩ := Prod.mk.inj head
            rw [admitted, List.filter_nil, List.map_nil, List.append_nil]
            exact refused answer
        | cons head between =>
            obtain ⟨rfl, tail⟩ := List.cons.inj split
            rw [listed, ← List.append_assoc, ← same]
            exact exact between time after tail

end RateLimiter

/-- No second, wherever it starts, has more admissions than the limit, and a packet is refused
only when the second before it has as many. -/
theorem rate_limit_exact (limit : Nat) (times : List Nat) (ordered : times.Pairwise (· ≤ ·)) :
    (∀ start : ℚ,
        (RateLimiter.admitted ((RateLimiter.new limit).calls times).1).countP
            (fun seen : Nat => start ≤ seen ∧ (seen : ℚ) < start + oneSecond) ≤ limit ∧
          (RateLimiter.admitted ((RateLimiter.new limit).calls times).1).countP
            (fun seen : Nat => start < seen ∧ (seen : ℚ) ≤ start + oneSecond) ≤ limit) ∧
      (∀ before now after,
        ((RateLimiter.new limit).calls times).1 = before ++ (now, false) :: after →
          (RateLimiter.admitted before).countP (fun seen => now < seen + oneSecond) = limit) ∧
      ((RateLimiter.new limit).calls times).2.recent.length ≤ limit := by
  have sorted : (0 :: times).Pairwise (· ≤ ·) :=
    List.pairwise_cons.mpr ⟨fun _ _ => Nat.zero_le _, ordered⟩
  obtain ⟨⟨final, follows⟩, same, refused⟩ :=
    RateLimiter.calls_follow (RateLimiter.follows_new limit) sorted
  refine ⟨?_, refused, ?_⟩
  · intro start
    exact ⟨(follows.windows _ (RateLimiter.short_closed_open start)).trans (Nat.le_of_eq same),
      (follows.windows _ (RateLimiter.short_open_closed start)).trans (Nat.le_of_eq same)⟩
  · exact follows.bounded.trans (Nat.le_of_eq same)

theorem rate_limit_exact_two :
    RateLimiter.admitted ((RateLimiter.new 2).calls [0, 900000000, 950000000, 1000000000]).1 =
        [0, 900000000, 1000000000] ∧
      ((RateLimiter.new 2).calls [0, 900000000, 950000000, 1000000000]).2.recent.length ≤ 2 :=
  ⟨by decide, (rate_limit_exact 2 [0, 900000000, 950000000, 1000000000] (by decide)).2.2⟩

end Noland.Network
