import Mathlib.Data.List.Dedup
import Mathlib.Data.List.Infix
import Mathlib.Data.List.Perm.Subperm
import Mathlib.Data.List.TakeWhile
import Mathlib.Data.Int.Order.Basic

/-!
A hello is checked for its version, instance, nonce, time and MAC, and then its nonce is looked up
among those accepted. Of these the ones that are two minutes old are dropped, and at most 1024 are
kept. The time may be a minute off in both directions, so that it passes for two minutes, both
ends included. A MAC is verified and a time is read by functions that are left open. Times are in
nanoseconds.
-/

namespace Noland.Network

structure AuthHello where
  protocolVersion : Nat
  instanceId : String
  clientNonce : String
  timestamp : String
  mac : String
  deriving DecidableEq

structure ControlIdentity where
  instanceId : String
  parseTimestamp : String → Option Int
  verifyAuthHelloMac : AuthHello → Bool

def controlProtocolVersion : Nat := 1

def second : Int := 1000000000

def authClockSkew : Int := 60 * second

def nonceRetention : Int := 120 * second

def maxRetainedNonces : Nat := 1024

def nonceDigit (c : Char) : Bool :=
  ('0' ≤ c && c ≤ '9') || ('a' ≤ c && c ≤ 'f') || ('A' ≤ c && c ≤ 'F')

def validNonce (nonce : String) : Bool := nonce.length = 64 && nonce.toList.all nonceDigit

def ControlIdentity.checkHello (identity : ControlIdentity) (hello : AuthHello) (now : Int) :
    Except String Unit :=
  if hello.protocolVersion ≠ controlProtocolVersion then
    .error "unsupported control protocol version"
  else if hello.instanceId ≠ identity.instanceId then
    .error "control instance identity mismatch"
  else if validNonce hello.clientNonce = false then .error "invalid control client nonce"
  else
    match identity.parseTimestamp hello.timestamp with
    | none => .error "invalid control authentication timestamp"
    | some time =>
        if authClockSkew < (time - now).natAbs then
          .error "control authentication timestamp is outside the allowed clock skew"
        else if identity.verifyAuthHelloMac hello = false then
          .error "invalid control authentication MAC"
        else .ok ()

abbrev Nonces := List (String × Int)

def stale (now : Int) (entry : String × Int) : Bool := nonceRetention ≤ now - entry.2

def pruneNonces (now : Int) (nonces : Nonces) : Nonces := nonces.dropWhile (stale now)

def makeRoom (nonces : Nonces) : Nonces := nonces.drop (nonces.length + 1 - maxRetainedNonces)

def ControlIdentity.authenticate (identity : ControlIdentity) (nonces : Nonces) (hello : AuthHello)
    (now : Int) : Except String Unit × Nonces :=
  match identity.checkHello hello now with
  | .error error => (.error error, nonces)
  | .ok _ =>
      if (pruneNonces now nonces).any fun entry => entry.1 = hello.clientNonce then
        (.error "replayed control authentication nonce", pruneNonces now nonces)
      else (.ok (), makeRoom (pruneNonces now nonces) ++ [(hello.clientNonce, now)])

abbrev Arrival := AuthHello × Int

/-- The nonces, and everything that was accepted so far. -/
structure Door where
  nonces : Nonces := []
  accepted : List Arrival := []

def Door.open (identity : ControlIdentity) (door : Door) (arrival : Arrival) : Door :=
  let result := identity.authenticate door.nonces arrival.1 arrival.2
  { nonces := result.2
    accepted := match result.1 with
      | .ok _ => door.accepted ++ [arrival]
      | .error _ => door.accepted }

def Door.serve (identity : ControlIdentity) (arrivals : List Arrival) : Door :=
  arrivals.foldl (Door.open identity) {}

def Ordered (arrivals : List Arrival) : Prop := arrivals.Pairwise fun left right => left.2 ≤ right.2

instance (arrivals : List Arrival) : Decidable (Ordered arrivals) :=
  inferInstanceAs (Decidable (arrivals.Pairwise _))

/-- A hello with this nonce is among the last 1024 that were accepted and is less than
two minutes old. -/
def Door.Retains (door : Door) (nonce : String) (now : Int) : Prop :=
  ∃ entry ∈ door.accepted.drop (door.accepted.length - maxRetainedNonces),
    entry.1.clientNonce = nonce ∧ now - entry.2 < nonceRetention

def Arrival.entry (arrival : Arrival) : String × Int := (arrival.1.clientNonce, arrival.2)

/-- The queue is the end of what was accepted; what has left it is too old by now, or
the queue is full. -/
structure Door.Tidy (door : Door) (clock : Int) : Prop where
  ordered : Ordered door.accepted
  past : ∀ arrival ∈ door.accepted, arrival.2 ≤ clock
  small : door.nonces.length ≤ maxRetainedNonces
  split : ∃ dropped, door.accepted.map Arrival.entry = dropped ++ door.nonces ∧
    (dropped = [] ∨ door.nonces.length = maxRetainedNonces ∨
      ∀ entry ∈ dropped, nonceRetention ≤ clock - entry.2)

theorem Door.Tidy.later {door : Door} {clock now : Int} (tidy : door.Tidy clock)
    (later : clock ≤ now) : door.Tidy now := by
  obtain ⟨dropped, whole, gone⟩ := tidy.split
  refine ⟨tidy.ordered, ?_, tidy.small, dropped, whole, ?_⟩
  · intro arrival member
    exact (tidy.past arrival member).trans later
  · rcases gone with none | full | old
    · exact Or.inl none
    · exact Or.inr (Or.inl full)
    · refine Or.inr (Or.inr fun entry member => ?_)
      have aged := old entry member
      omega

theorem mem_dropWhile_of_not {α : Type} {p : α → Bool} {list : List α} {item : α}
    (member : item ∈ list) (stops : p item = false) : item ∈ list.dropWhile p := by
  induction list with
  | nil => cases member
  | cons first rest ih =>
      by_cases passes : p first = true
      · rw [List.dropWhile_cons_of_pos passes]
        rcases List.mem_cons.mp member with rfl | later
        · rw [stops] at passes
          cases passes
        · exact ih later
      · rw [List.dropWhile_cons_of_neg passes]
        exact member

theorem mem_pruneNonces {nonces : Nonces} {now : Int} {entry : String × Int}
    (ordered : nonces.Pairwise fun left right => left.2 ≤ right.2) :
    entry ∈ pruneNonces now nonces ↔ entry ∈ nonces ∧ now - entry.2 < nonceRetention := by
  unfold pruneNonces
  constructor
  · intro member
    refine ⟨(List.dropWhile_suffix _).mem member, ?_⟩
    induction nonces with
    | nil => cases member
    | cons first rest ih =>
        obtain ⟨before, others⟩ := List.pairwise_cons.mp ordered
        by_cases old : nonceRetention ≤ now - first.2
        · rw [List.dropWhile_cons_of_pos (by simpa [stale] using old)] at member
          exact ih others member
        · rw [List.dropWhile_cons_of_neg (by simpa [stale] using old)] at member
          rcases List.mem_cons.mp member with rfl | later
          · omega
          · have order := before entry later
            omega
  · rintro ⟨member, young⟩
    apply mem_dropWhile_of_not member
    simpa [stale] using young

theorem Door.Tidy.queue_ordered {door : Door} {clock : Int} (tidy : door.Tidy clock) :
    door.nonces.Pairwise fun left right => left.2 ≤ right.2 := by
  obtain ⟨dropped, whole, _⟩ := tidy.split
  have mapped : (door.accepted.map Arrival.entry).Pairwise fun left right => left.2 ≤ right.2 :=
    List.pairwise_map.mpr tidy.ordered
  rw [whole] at mapped
  exact (List.pairwise_append.mp mapped).2.1

theorem Door.Tidy.found {door : Door} {clock : Int} (tidy : door.Tidy clock) (nonce : String) :
    ((pruneNonces clock door.nonces).any fun entry => entry.1 = nonce) = true ↔
      door.Retains nonce clock := by
  obtain ⟨dropped, whole, gone⟩ := tidy.split
  have lengths : door.accepted.length = dropped.length + door.nonces.length := by
    have counted := congrArg List.length whole
    rwa [List.length_map, List.length_append] at counted
  have last : (door.accepted.drop (door.accepted.length - maxRetainedNonces)).map Arrival.entry =
      dropped.drop (door.accepted.length - maxRetainedNonces) ++ door.nonces := by
    have small := tidy.small
    have fits : door.accepted.length - maxRetainedNonces ≤ dropped.length := by omega
    rw [List.map_drop, whole, List.drop_append_of_le_length fits]
  rw [List.any_eq_true]
  constructor
  · rintro ⟨entry, member, same⟩
    obtain ⟨inside, young⟩ := (mem_pruneNonces tidy.queue_ordered).mp member
    have among : entry ∈ (door.accepted.drop
        (door.accepted.length - maxRetainedNonces)).map Arrival.entry := by
      rw [last]
      exact List.mem_append_right _ inside
    obtain ⟨arrival, listed, rfl⟩ := List.mem_map.mp among
    exact ⟨arrival, listed, of_decide_eq_true same, young⟩
  · rintro ⟨arrival, listed, same, young⟩
    refine ⟨arrival.entry, ?_, decide_eq_true same⟩
    apply (mem_pruneNonces tidy.queue_ordered).mpr
    refine ⟨?_, young⟩
    have among := List.mem_map_of_mem (f := Arrival.entry) listed
    rw [last] at among
    rcases List.mem_append.mp among with left | inside
    · rcases gone with none | full | old
      · rw [none, List.drop_nil] at left
        cases left
      · have nothing : dropped.drop (door.accepted.length - maxRetainedNonces) = [] := by
          apply List.drop_eq_nil_of_le
          omega
        rw [nothing] at left
        cases left
      · have aged := old arrival.entry (List.mem_of_mem_drop left)
        have time : arrival.entry.2 = arrival.2 := rfl
        omega
    · exact inside

theorem Door.Tidy.pruned {door : Door} {clock : Int} (tidy : door.Tidy clock) :
    ({ door with nonces := pruneNonces clock door.nonces } : Door).Tidy clock := by
  obtain ⟨dropped, whole, gone⟩ := tidy.split
  have parts : door.nonces.takeWhile (stale clock) ++ pruneNonces clock door.nonces =
      door.nonces := List.takeWhile_append_dropWhile
  have mapped : (dropped ++ door.nonces).Pairwise fun left right => left.2 ≤ right.2 := by
    rw [← whole]
    exact List.pairwise_map.mpr tidy.ordered
  refine ⟨tidy.ordered, tidy.past, ?_, dropped ++ door.nonces.takeWhile (stale clock), ?_, ?_⟩
  · exact (List.dropWhile_suffix _).length_le.trans tidy.small
  · rw [List.append_assoc, parts, whole]
  · cases taken : door.nonces.takeWhile (stale clock) with
    | nil =>
        have same : pruneNonces clock door.nonces = door.nonces := by
          rw [taken, List.nil_append] at parts
          exact parts
        simp only [same, List.append_nil]
        exact gone
    | cons first rest =>
        -- Everything before the first old entry of the queue is older still.
        refine Or.inr (Or.inr ?_)
        have aged : ∀ entry ∈ first :: rest, nonceRetention ≤ clock - entry.2 := by
          intro entry member
          rw [← taken] at member
          have old : stale clock entry = true := List.mem_takeWhile_imp member
          exact of_decide_eq_true old
        intro entry member
        rcases List.mem_append.mp member with before | here
        · have inside : first ∈ door.nonces := by
            apply (List.takeWhile_prefix _).mem
            rw [taken]
            exact List.mem_cons_self
          have order := (List.pairwise_append.mp mapped).2.2 entry before first inside
          have old := aged first List.mem_cons_self
          omega
        · exact aged entry here

theorem Door.Tidy.accept {door : Door} {clock : Int} (tidy : door.Tidy clock) (hello : AuthHello) :
    ({ nonces := makeRoom door.nonces ++ [(hello.clientNonce, clock)]
       accepted := door.accepted ++ [(hello, clock)] } : Door).Tidy clock := by
  obtain ⟨dropped, whole, gone⟩ := tidy.split
  have small := tidy.small
  have room : (makeRoom door.nonces).length =
      door.nonces.length - (door.nonces.length + 1 - maxRetainedNonces) := List.length_drop
  have positive : 0 < maxRetainedNonces := by decide
  refine ⟨?_, ?_, ?_,
    dropped ++ door.nonces.take (door.nonces.length + 1 - maxRetainedNonces), ?_, ?_⟩
  · apply List.pairwise_append.mpr
    refine ⟨tidy.ordered, List.pairwise_singleton _ _, ?_⟩
    intro before member last only
    rw [List.mem_singleton.mp only]
    exact tidy.past before member
  · intro arrival member
    rcases List.mem_append.mp member with before | last
    · exact tidy.past arrival before
    · rw [List.mem_singleton.mp last]
  · rw [List.length_append, room, List.length_singleton]
    omega
  · rw [List.map_append, whole]
    simp only [makeRoom, List.append_assoc]
    rw [← List.append_assoc (List.take _ _), List.take_append_drop]
    rfl
  · simp only [List.length_append, room, List.length_singleton]
    by_cases full : door.nonces.length = maxRetainedNonces
    · exact Or.inr (Or.inl (by omega))
    · have nothing : door.nonces.length + 1 - maxRetainedNonces = 0 := by omega
      rw [nothing, List.take_zero, List.append_nil]
      rcases gone with none | other | old
      · exact Or.inl none
      · exact absurd other full
      · exact Or.inr (Or.inr old)

def passes (identity : ControlIdentity) (arrival : Arrival) : Bool :=
  (identity.checkHello arrival.1 arrival.2).isOk

section Arrivals

variable {identity : ControlIdentity}

theorem Door.Tidy.open_cases {door : Door} {arrival : Arrival} (tidy : door.Tidy arrival.2) :
    (door.open identity arrival).Tidy arrival.2 ∧
      (passes identity arrival = true ∧ ¬ door.Retains arrival.1.clientNonce arrival.2 ∧
          (door.open identity arrival).accepted = door.accepted ++ [arrival] ∨
        (door.open identity arrival).accepted = door.accepted) := by
  obtain ⟨hello, now⟩ := arrival
  have found := tidy.found hello.clientNonce
  unfold Door.open ControlIdentity.authenticate passes
  cases admitted : identity.checkHello hello now with
  | error error => exact ⟨tidy, Or.inr rfl⟩
  | ok value =>
      by_cases retained : door.Retains hello.clientNonce now
      · simp only [found.mpr retained, if_true]
        exact ⟨tidy.pruned, Or.inr trivial⟩
      · have missing := mt found.mp retained
        simp only [if_neg missing]
        exact ⟨tidy.pruned.accept hello, Or.inl ⟨rfl, retained, trivial⟩⟩

theorem serve_append (identity : ControlIdentity) (before : List Arrival) (arrival : Arrival) :
    Door.serve identity (before ++ [arrival]) = (Door.serve identity before).open identity arrival := by
  unfold Door.serve
  rw [List.foldl_append]
  rfl

theorem Ordered.before {before : List Arrival} {arrival : Arrival}
    (ordered : Ordered (before ++ [arrival])) :
    Ordered before ∧ ∀ earlier ∈ before, earlier.2 ≤ arrival.2 := by
  obtain ⟨first, _, across⟩ := List.pairwise_append.mp ordered
  exact ⟨first, fun earlier member => across earlier member arrival (List.mem_singleton_self _)⟩

theorem serve_tidy (identity : ControlIdentity) {arrivals : List Arrival}
    (ordered : Ordered arrivals) {clock : Int} (past : ∀ arrival ∈ arrivals, arrival.2 ≤ clock) :
    (Door.serve identity arrivals).Tidy clock := by
  induction arrivals using List.reverseRecOn generalizing clock with
  | nil =>
      exact ⟨List.Pairwise.nil, nofun, Nat.zero_le _, [], rfl, Or.inl rfl⟩
  | append_singleton before arrival ih =>
      obtain ⟨first, earlier⟩ := ordered.before
      rw [serve_append]
      have tidy := ih first earlier
      exact tidy.open_cases.1.later (past arrival (by simp))

theorem accepted_sublist (identity : ControlIdentity) {arrivals : List Arrival}
    (ordered : Ordered arrivals) :
    (Door.serve identity arrivals).accepted.Sublist (arrivals.filter (passes identity)) := by
  induction arrivals using List.reverseRecOn with
  | nil => exact List.nil_sublist _
  | append_singleton before arrival ih =>
      obtain ⟨first, earlier⟩ := ordered.before
      rw [serve_append, List.filter_append]
      rcases (serve_tidy identity first earlier).open_cases.2 with ⟨passing, -, grown⟩ | same
      · rw [grown, List.filter_singleton, passing]
        exact (ih first).append (List.Sublist.refl _)
      · rw [same]
        exact (ih first).trans (List.sublist_append_left _ _)

def others (hello : AuthHello) (arrivals : List Arrival) : List AuthHello :=
  ((arrivals.map Prod.fst).filter fun other => other ≠ hello).dedup

/-- Where the same hello came before, in this list of arrivals that passed their checks, it was
not two minutes ago to the nanosecond, and fewer than 1024 other hellos came since. -/
def InWindow (arrival : Arrival) : List Arrival → Prop
  | [] => True
  | first :: later =>
      (first.1 = arrival.1 → arrival.2 ≠ first.2 + nonceRetention ∧
        (others arrival.1 later).length < maxRetainedNonces) ∧ InWindow arrival later

instance decidableInWindow (arrival : Arrival) :
    ∀ arrivals, Decidable (InWindow arrival arrivals)
  | [] => .isTrue trivial
  | _ :: later => @instDecidableAnd _ _ inferInstance (decidableInWindow arrival later)

def Spaced (identity : ControlIdentity) (arrivals : List Arrival) : Prop :=
  ∀ before arrival, before ++ [arrival] <+: arrivals → passes identity arrival = true →
    InWindow arrival (before.filter (passes identity))

theorem spaced_append {identity : ControlIdentity} {before : List Arrival} {arrival : Arrival} :
    Spaced identity (before ++ [arrival]) ↔
      Spaced identity before ∧ (passes identity arrival = true →
        InWindow arrival (before.filter (passes identity))) := by
  constructor
  · intro spaced
    refine ⟨?_, spaced before arrival (List.prefix_refl _)⟩
    intro first middle within
    exact spaced first middle (within.trans (List.prefix_append _ _))
  · rintro ⟨spaced, last⟩ first middle within
    rcases List.prefix_concat_iff.mp within with whole | shorter
    · obtain ⟨rfl, same⟩ := List.append_inj' whole rfl
      obtain rfl : middle = arrival := by simpa using same
      exact last
    · exact spaced first middle shorter

theorem InWindow.of_split {arrival first : Arrival} {before later : List Arrival}
    (within : InWindow arrival (before ++ first :: later)) (same : first.1 = arrival.1) :
    arrival.2 ≠ first.2 + nonceRetention ∧
      (others arrival.1 later).length < maxRetainedNonces := by
  induction before with
  | nil => exact within.1 same
  | cons _ rest ih => exact ih within.2

theorem time_of_passes {hello : AuthHello} {now : Int}
    (passing : passes identity (hello, now) = true) :
    ∃ time, identity.parseTimestamp hello.timestamp = some time ∧
      (time - now).natAbs ≤ authClockSkew := by
  unfold passes ControlIdentity.checkHello at passing
  cases parsed : identity.parseTimestamp hello.timestamp with
  | none =>
      simp only [parsed] at passing
      split_ifs at passing <;> cases passing
  | some time =>
      refine ⟨time, rfl, ?_⟩
      by_contra off
      simp only [parsed, if_pos (Int.not_le.mp off)] at passing
      split_ifs at passing <;> cases passing

/-- The times at which a hello passes its checks lie within two minutes: a minute on each side of
its own time. -/
theorem window_of_passes {hello : AuthHello} {first again : Int}
    (firstPasses : passes identity (hello, first) = true)
    (againPasses : passes identity (hello, again) = true) : again ≤ first + nonceRetention := by
  obtain ⟨time, parsed, before⟩ := time_of_passes firstPasses
  obtain ⟨same, parsedAgain, after⟩ := time_of_passes againPasses
  obtain rfl : time = same := Option.some.inj (parsed.symm.trans parsedAgain)
  have twice : nonceRetention = authClockSkew + authClockSkew := rfl
  omega

theorem retained_of_inWindow {before : List Arrival} {arrival : Arrival}
    (ordered : Ordered before) (once : ((Door.serve identity before).accepted.map Prod.fst).Nodup)
    (passing : passes identity arrival = true)
    (within : InWindow arrival (before.filter (passes identity)))
    (member : arrival.1 ∈ (Door.serve identity before).accepted.map Prod.fst) :
    (Door.serve identity before).Retains arrival.1.clientNonce arrival.2 := by
  obtain ⟨first, accepted, same⟩ := List.mem_map.mp member
  obtain ⟨earlier, since, split⟩ := List.append_of_mem accepted
  have listed := accepted_sublist identity ordered
  rw [split] at listed once
  obtain ⟨front, back, arrived, -, tail⟩ := List.append_sublist_iff.mp listed
  obtain ⟨start, later, parts, inside, sinceLater⟩ := List.cons_sublist_iff.mp tail
  obtain ⟨left, right, rfl⟩ := List.append_of_mem inside
  have firstPasses : passes identity first = true := by
    have among : first ∈ before.filter (passes identity) := by
      rw [arrived, parts]
      simp
    exact (List.mem_filter.mp among).2
  have whole : before.filter (passes identity) =
      (front ++ left) ++ first :: (right ++ later) := by
    rw [arrived, parts]
    simp
  rw [whole] at within
  obtain ⟨apart, few⟩ := within.of_split same
  -- What was accepted since are different hellos among those that came since.
  have fewer : since.length < maxRetainedNonces := by
    rw [List.map_append, List.map_cons, List.nodup_append] at once
    obtain ⟨fresh, distinct⟩ := List.nodup_cons.mp once.2.1
    have contained : since.map Prod.fst ⊆ others arrival.1 (right ++ later) := by
      intro hello listed
      rw [others, List.mem_dedup, List.mem_filter]
      refine ⟨?_, decide_eq_true ?_⟩
      · obtain ⟨entry, member, rfl⟩ := List.mem_map.mp listed
        exact List.mem_map_of_mem (List.mem_append_right _ (sinceLater.subset member))
      · rintro rfl
        exact fresh (same ▸ listed)
    have shorter := (List.subperm_of_subset distinct contained).length_le
    rw [List.length_map] at shorter
    omega
  refine ⟨first, ?_, congrArg AuthHello.clientNonce same, ?_⟩
  · have fits : (earlier ++ first :: since).length - maxRetainedNonces ≤ earlier.length := by
      rw [List.length_append, List.length_cons]
      omega
    rw [split, List.drop_append_of_le_length fits]
    exact List.mem_append_right _ List.mem_cons_self
  · obtain ⟨hello, now⟩ := arrival
    obtain ⟨firstHello, time⟩ := first
    cases same
    have limit := window_of_passes firstPasses passing
    dsimp only at apart ⊢
    omega

/-- No hello is accepted twice where none comes again two minutes after it came before, to the
nanosecond, or with 1024 others in between. -/
theorem hellos_accepted_once (identity : ControlIdentity) (arrivals : List Arrival)
    (ordered : Ordered arrivals) (spaced : Spaced identity arrivals) :
    ((Door.serve identity arrivals).accepted.map Prod.fst).Nodup := by
  induction arrivals using List.reverseRecOn with
  | nil => exact List.nodup_nil
  | append_singleton before arrival ih =>
      obtain ⟨first, earlier⟩ := ordered.before
      obtain ⟨before_spaced, last⟩ := spaced_append.mp spaced
      have once := ih first before_spaced
      rw [serve_append]
      rcases (serve_tidy identity first earlier).open_cases.2 with ⟨passing, forgotten, grown⟩ | same
      · rw [grown, List.map_append, List.map_singleton, List.nodup_append]
        refine ⟨once, List.pairwise_singleton _ _, ?_⟩
        intro hello member other only equal
        rw [List.mem_singleton.mp only] at equal
        exact forgotten (retained_of_inWindow first once passing (last passing) (equal ▸ member))
      · rw [same]
        exact once

end Arrivals

namespace Handshake

def identity : ControlIdentity where
  instanceId := "42"
  parseTimestamp text := if text = "1970-01-01T00:01:00+00:00" then some (60 * second) else none
  verifyAuthHelloMac _ := true

def hello : AuthHello where
  protocolVersion := 1
  instanceId := "42"
  clientNonce := "abababababababababababababababababababababababababababababababab"
  timestamp := "1970-01-01T00:01:00+00:00"
  mac := "00"

end Handshake

theorem hello_refused_within_retention :
    ((Door.serve Handshake.identity [(Handshake.hello, 0),
        (Handshake.hello, 119 * second)]).accepted.map Prod.fst).Nodup := by
  apply hellos_accepted_once Handshake.identity _ (by decide +kernel)
  apply (@spaced_append _ [(Handshake.hello, 0)] _).mpr
  refine ⟨(@spaced_append _ [] _).mpr ⟨?_, fun _ => trivial⟩, fun _ => by decide +kernel⟩
  intro before arrival within
  simp at within

/-- A hello whose time is a minute ahead is let in again after two minutes. -/
theorem hello_accepted_twice :
    Ordered [(Handshake.hello, 0), (Handshake.hello, 120 * second)] ∧
      ¬ ((Door.serve Handshake.identity [(Handshake.hello, 0),
        (Handshake.hello, 120 * second)]).accepted.map Prod.fst).Nodup := by
  constructor
  · decide +kernel
  · decide +kernel

end Noland.Network
