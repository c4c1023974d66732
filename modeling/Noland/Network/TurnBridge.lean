import Mathlib.Data.List.Induction
import Noland.Network.Probe
import Noland.Network.TurnManager

/-!
The bridge carries datagrams between the relay and the WireGuard socket of the kernel. A peer that
sent a datagram becomes the pending one, and the active one when the kernel sends the next
datagram. What a receive or a send comes to is part of the event.
-/

namespace Noland.Network

def minWireguardDatagram : Nat := 32

structure BridgeConfig (Ip : Type) where
  allowedIps : List Ip
  effectiveMtu : Nat

namespace BridgeConfig

variable {Ip : Type}

/-- `usize::clamp` between the least datagram and 4096. -/
def maximumDatagram (config : BridgeConfig Ip) : Nat :=
  max minWireguardDatagram (min 4096 (config.effectiveMtu + 256))

def fits (config : BridgeConfig Ip) (packet : List UInt8) : Bool :=
  minWireguardDatagram ≤ packet.length && packet.length ≤ config.maximumDatagram

/-- A receive into the buffer of `maximum_datagram + 1` bytes. -/
def received (config : BridgeConfig Ip) (datagram : List UInt8) : List UInt8 :=
  datagram.take (config.maximumDatagram + 1)

variable {config : BridgeConfig Ip} {datagram : List UInt8}

theorem received_of_fits (fitting : config.fits datagram = true) :
    config.received datagram = datagram := by
  simp only [fits, Bool.and_eq_true, decide_eq_true_eq] at fitting
  exact List.take_of_length_le (fitting.2.trans (Nat.le_succ _))

theorem fits_received : config.fits (config.received datagram) = config.fits datagram := by
  have least : minWireguardDatagram ≤ config.maximumDatagram := Nat.le_max_left _ _
  have short : (config.received datagram).length =
      min (config.maximumDatagram + 1) datagram.length := List.length_take
  unfold fits
  rw [short, Bool.eq_iff_iff]
  simp only [Bool.and_eq_true, decide_eq_true_eq]
  omega

theorem isPrefixOf_received :
    magic.isPrefixOf (config.received datagram) = magic.isPrefixOf datagram := by
  have least : minWireguardDatagram ≤ config.maximumDatagram := Nat.le_max_left _ _
  have room : magic.length ≤ config.maximumDatagram + 1 := by
    have length : magic.length = 4 := rfl
    have bytes : minWireguardDatagram = 32 := rfl
    omega
  rw [Bool.eq_iff_iff, List.isPrefixOf_iff_prefix, List.isPrefixOf_iff_prefix, received,
    List.prefix_take_iff]
  exact and_iff_left room

end BridgeConfig

inductive BridgeEvent (Ip : Type) where
  | cancelChanged (stop : Bool)
  | relayReceived (datagram : List UInt8) (source : Ip × UInt16) (answer : Option (List UInt8))
      (sends : Bool) (now : Nat)
  | relayFailed
  | kernelReceived (datagram : List UInt8) (sends : Bool) (now : Nat)
  | kernelFailed

structure TurnBridgeStats (Ip : Type) where
  wireguardPacketsReceived : Nat := 0
  wireguardPacketsSent : Nat := 0
  probePacketsReceived : Nat := 0
  droppedPackets : Nat := 0
  lastPacketAtUnixMs : Option Nat := none
  activePeerTuple : Option (Ip × UInt16) := none

structure BridgeRun (Ip : Type) where
  pendingPeerTuple : Option (Ip × UInt16) := none
  activePeerTuple : Option (Ip × UInt16) := none
  stats : TurnBridgeStats Ip := {}
  ended : Bool := false
  toKernel : List (List UInt8) := []
  toRelay : List (List UInt8 × (Ip × UInt16)) := []
  answered : List (List UInt8 × (Ip × UInt16)) := []

namespace BridgeRun

variable {Ip : Type} [DecidableEq Ip] (config : BridgeConfig Ip)

def recordDrop (bridge : BridgeRun Ip) : BridgeRun Ip :=
  { bridge with stats.droppedPackets := saturatingSucc bridge.stats.droppedPackets }

def relayReceived (bridge : BridgeRun Ip) (packet : List UInt8)
    (source : Ip × UInt16) (answer : Option (List UInt8)) (sends : Bool) (now : Nat) :
    BridgeRun Ip :=
  if source.1 ∉ config.allowedIps then bridge.recordDrop
  else if magic.isPrefixOf packet then
    match answer with
    | some response =>
        if sends then
          { bridge with
            answered := bridge.answered ++ [(response, source)]
            stats.probePacketsReceived := saturatingSucc bridge.stats.probePacketsReceived
            stats.lastPacketAtUnixMs := some now }
        else { bridge with ended := true }
    | none => bridge.recordDrop
  else if config.fits packet then
    if sends then
      { bridge with
        toKernel := bridge.toKernel ++ [packet]
        pendingPeerTuple := some source
        stats.wireguardPacketsReceived := saturatingSucc bridge.stats.wireguardPacketsReceived
        stats.lastPacketAtUnixMs := some now }
    else { bridge with ended := true }
  else bridge.recordDrop

def kernelReceived (bridge : BridgeRun Ip) (packet : List UInt8) (sends : Bool)
    (now : Nat) : BridgeRun Ip :=
  if config.fits packet then
    let active := bridge.pendingPeerTuple.or bridge.activePeerTuple
    let bridge := { bridge with pendingPeerTuple := none, activePeerTuple := active }
    match active with
    | none => bridge.recordDrop
    | some destination =>
        if sends then
          { bridge with
            toRelay := bridge.toRelay ++ [(packet, destination)]
            stats.wireguardPacketsSent := saturatingSucc bridge.stats.wireguardPacketsSent
            stats.lastPacketAtUnixMs := some now
            stats.activePeerTuple := some destination }
        else { bridge with ended := true }
  else bridge.recordDrop

/-- One turn of the loop in `run_bridge`. -/
def step (bridge : BridgeRun Ip) (event : BridgeEvent Ip) : BridgeRun Ip :=
  if bridge.ended then bridge
  else
    match event with
    | .cancelChanged stop => { bridge with ended := stop }
    | .relayReceived datagram source answer sends now =>
        bridge.relayReceived config (config.received datagram) source answer sends now
    | .relayFailed => { bridge with ended := true }
    | .kernelReceived datagram sends now =>
        bridge.kernelReceived config (config.received datagram) sends now
    | .kernelFailed => { bridge with ended := true }

def runBridge (events : List (BridgeEvent Ip)) : BridgeRun Ip :=
  events.foldl (step config) {}

def admitted : BridgeEvent Ip → Option (List UInt8 × (Ip × UInt16))
  | .relayReceived datagram source _ _ _ =>
      if source.1 ∈ config.allowedIps ∧ ¬ magic.isPrefixOf datagram ∧ config.fits datagram then
        some (datagram, source)
      else none
  | _ => none

def returned (peer : Option (Ip × UInt16)) :
    List (BridgeEvent Ip) → List (List UInt8 × (Ip × UInt16))
  | [] => []
  | event :: rest =>
      match event, peer with
      | .kernelReceived datagram _ _, some destination =>
          if config.fits datagram then (datagram, destination) :: returned peer rest
          else returned peer rest
      | event, peer => returned (((admitted config event).map Prod.snd).or peer) rest

variable {config}

variable {bridge : BridgeRun Ip} {event : BridgeEvent Ip}

def peer (bridge : BridgeRun Ip) : Option (Ip × UInt16) :=
  bridge.pendingPeerTuple.or bridge.activePeerTuple

structure Turned (config : BridgeConfig Ip) (bridge next : BridgeRun Ip)
    (event : BridgeEvent Ip) : Prop where
  toKernel : next.toKernel = bridge.toKernel ++ ((admitted config event).map Prod.fst).toList
  toRelay : next.toRelay = bridge.toRelay ++ returned config bridge.peer [event]
  peer : next.peer = ((admitted config event).map Prod.snd).or bridge.peer

theorem relayReceived_turned {datagram : List UInt8} {source : Ip × UInt16}
    {answer : Option (List UInt8)} {sends : Bool} {now : Nat}
    (running : (bridge.relayReceived config (config.received datagram) source answer sends
      now).ended = false) :
    Turned config bridge
      (bridge.relayReceived config (config.received datagram) source answer sends now)
      (.relayReceived datagram source answer sends now) := by
  unfold relayReceived at running ⊢
  rw [BridgeConfig.fits_received, BridgeConfig.isPrefixOf_received] at running ⊢
  by_cases heard : source.1 ∈ config.allowedIps ∧ ¬ magic.isPrefixOf datagram ∧
      config.fits datagram = true
  · obtain ⟨known, ordinary, fitting⟩ := heard
    rw [if_neg (not_not_intro known), if_neg ordinary, if_pos fitting] at running ⊢
    cases sends with
    | false => cases running
    | true =>
        constructor <;>
          simp [admitted, returned, peer, known, ordinary, fitting,
            BridgeConfig.received_of_fits fitting]
  · have silent : admitted config (.relayReceived datagram source answer sends now) = none :=
      if_neg heard
    by_cases known : source.1 ∈ config.allowedIps
    · rw [if_neg (not_not_intro known)] at running ⊢
      by_cases probe : magic.isPrefixOf datagram = true
      · rw [if_pos probe] at running ⊢
        cases answer with
        | none => constructor <;> simp [silent, returned, peer, recordDrop]
        | some response =>
            cases sends with
            | false => cases running
            | true => constructor <;> simp [silent, returned, peer]
      · have wide : ¬ config.fits datagram = true := fun fits => heard ⟨known, probe, fits⟩
        rw [if_neg probe, if_neg wide]
        constructor <;> simp [silent, returned, peer, recordDrop]
    · rw [if_pos known]
      constructor <;> simp [silent, returned, peer, recordDrop]

theorem kernelReceived_turned {datagram : List UInt8} {sends : Bool} {now : Nat}
    (running : (bridge.kernelReceived config (config.received datagram) sends now).ended =
      false) :
    Turned config bridge (bridge.kernelReceived config (config.received datagram) sends now)
      (.kernelReceived datagram sends now) := by
  unfold kernelReceived at running ⊢
  rw [BridgeConfig.fits_received] at running ⊢
  cases active : bridge.pendingPeerTuple.or bridge.activePeerTuple with
  | none =>
      split_ifs <;> constructor <;> simp [admitted, returned, peer, recordDrop, active]
  | some destination =>
      by_cases fitting : config.fits datagram = true
      · rw [if_pos fitting] at running ⊢
        simp only [active] at running ⊢
        cases sends with
        | false => cases running
        | true =>
            constructor <;>
              simp [admitted, returned, peer, active, fitting,
                BridgeConfig.received_of_fits fitting]
      · rw [if_neg fitting]
        constructor <;> simp [admitted, returned, peer, recordDrop, active, fitting]

theorem step_turned (running : (bridge.step config event).ended = false) :
    Turned config bridge (bridge.step config event) event := by
  unfold step at running ⊢
  by_cases ended : bridge.ended = true
  · rw [if_pos ended, ended] at running
    cases running
  rw [if_neg ended] at running ⊢
  cases event with
  | cancelChanged stop => constructor <;> simp [admitted, returned, peer]
  | relayFailed => cases running
  | kernelFailed => cases running
  | relayReceived datagram source answer sends now => exact relayReceived_turned running
  | kernelReceived datagram sends now => exact kernelReceived_turned running

variable {events : List (BridgeEvent Ip)}

theorem foldl_ended (ended : bridge.ended = true) :
    (events.foldl (step config) bridge).ended = true := by
  induction events with
  | nil => exact ended
  | cons event rest ih =>
      have still : bridge.step config event = bridge := if_pos ended
      rw [List.foldl_cons, still]
      exact ih

theorem returned_cons (peer : Option (Ip × UInt16)) (event : BridgeEvent Ip)
    (rest : List (BridgeEvent Ip)) :
    returned config peer (event :: rest) =
      returned config peer [event] ++
        returned config (((admitted config event).map Prod.snd).or peer) rest := by
  cases event <;> cases peer <;> simp only [returned, admitted, Option.map_none, Option.none_or,
    List.nil_append]
  split_ifs <;> rfl

theorem returned_allowed {peer : Option (Ip × UInt16)}
    (known : ∀ address, peer = some address → address.1 ∈ config.allowedIps)
    (events : List (BridgeEvent Ip)) :
    ∀ packet ∈ returned config peer events, packet.2.1 ∈ config.allowedIps := by
  induction events generalizing peer with
  | nil => exact fun _ member => absurd member List.not_mem_nil
  | cons event rest ih =>
      intro packet member
      rw [returned_cons] at member
      rcases List.mem_append.mp member with first | later
      · cases event <;> cases peer <;> simp only [returned, List.not_mem_nil] at first
        split_ifs at first
        · exact List.mem_singleton.mp first ▸ known _ rfl
        · cases first
      · refine ih (fun address found => ?_) packet later
        cases heard : admitted config event with
        | none => exact known address (by simpa [heard] using found)
        | some entry =>
            obtain rfl : entry.2 = address := by simpa [heard] using found
            cases event <;> simp only [admitted, reduceCtorEq] at heard
            split_ifs at heard with allowed
            exact Option.some.inj heard ▸ allowed.1

theorem foldl_turned (running : (events.foldl (step config) bridge).ended = false) :
    (events.foldl (step config) bridge).toKernel =
        bridge.toKernel ++ (events.filterMap (admitted config)).map Prod.fst ∧
      (events.foldl (step config) bridge).toRelay =
        bridge.toRelay ++ returned config bridge.peer events := by
  induction events generalizing bridge with
  | nil => exact ⟨(List.append_nil _).symm, (List.append_nil _).symm⟩
  | cons event rest ih =>
      rw [List.foldl_cons] at running ⊢
      have alive : (bridge.step config event).ended = false := by
        rw [Bool.eq_false_iff]
        intro ended
        exact absurd (running.symm.trans (foldl_ended ended)) Bool.false_ne_true
      have turned := step_turned alive
      obtain ⟨later, returns⟩ := ih running
      rw [later, returns, turned.toKernel, turned.toRelay, turned.peer,
        returned_cons _ _ rest, List.append_assoc, List.append_assoc]
      constructor
      · cases heard : admitted config event <;> simp [heard]
      · rfl

/-- While the bridge runs, the kernel has heard exactly the datagrams that the allowed peers sent
for it, whole and in order, and each of its own went to the peer that it heard last, which is
an allowed one. -/
theorem turn_bridge_relays (config : BridgeConfig Ip) (events : List (BridgeEvent Ip))
    (running : (runBridge config events).ended = false) :
    (runBridge config events).toKernel = (events.filterMap (admitted config)).map Prod.fst ∧
      (runBridge config events).toRelay = returned config none events ∧
      ∀ packet ∈ (runBridge config events).toRelay, packet.2.1 ∈ config.allowedIps := by
  have turned := foldl_turned running
  refine ⟨turned.1, turned.2, ?_⟩
  rw [runBridge, turned.2]
  exact returned_allowed (fun address found => by cases found) events

theorem turn_bridge_relays_loopback :
    (runBridge ⟨[(7 : Nat)], 1280⟩ [.relayReceived (.replicate 40 1) (7, 4) none true 0,
      .kernelReceived (.replicate 50 2) true 1]).toRelay = [(.replicate 50 2, (7, 4))] :=
  (turn_bridge_relays _ _ (by decide)).2.1.trans (by decide)

end BridgeRun

end Noland.Network
