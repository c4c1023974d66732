import Noland.Network.TurnManager

/-!
The endpoint and the MTU of the tunnel are kept in the running device, in the status of the helper
process and in the config file of the desktop. The verification of the tunnel compares the
fingerprint that the helper took of the file at its launch with the file as it is. The digest, the
resolver of addresses and the decoders of keys and networks are parameters; `fresh` and `recent`
are what the verification finds about the age of the status and of the handshake.
-/

namespace Noland.Network

open Noland.Text

def stripReturn (line : List Char) : List Char :=
  if line.getLast? = some '\r' then line.dropLast else line

def linesOf : List (List Char) → List (List Char)
  | [] => []
  | [last] => if last = [] then [] else [last]
  | line :: next :: rest => stripReturn line :: linesOf (next :: rest)

def textLines (text : List Char) : List (List Char) := linesOf (pieces '\n' text)

def eqIgnoreCase (left right : List Char) : Bool := left.map Char.toLower = right.map Char.toLower

def isHeader (line : List Char) : Bool := line.head? = some '[' && line.getLast? = some ']'

def headerName (line : List Char) : List Char := line.tail.dropLast

def headerOf (name : List Char) : List Char := '[' :: (name ++ [']'])

def isKey (key line : List Char) : Bool :=
  (splitOnce '=' line).any fun (candidate, _) => eqIgnoreCase (trim candidate) key

/-- `optional_value` of the helper. A line of the section that is no assignment ends the
search. -/
def optionalValue (name key : List Char) : Bool → List (List Char) → Option (List Char)
  | _, [] => none
  | inside, line :: rest =>
      let line := trim line
      if line = [] ∨ line.head? = some '#' then optionalValue name key inside rest
      else if isHeader line then optionalValue name key (eqIgnoreCase line (headerOf name)) rest
      else if inside then
        match splitOnce '=' line with
        | none => none
        | some (candidate, value) =>
            if eqIgnoreCase (trim candidate) key then some (trim value)
            else optionalValue name key inside rest
      else optionalValue name key inside rest

/-- `parse_wireguard_config_value` of the desktop. -/
def parseConfigValue (name key : List Char) : Bool → List (List Char) → Option (List Char)
  | _, [] => none
  | inside, line :: rest =>
      let line := trim line
      if line = [] ∨ line.head? = some '#' then parseConfigValue name key inside rest
      else if isHeader line then parseConfigValue name key (eqIgnoreCase line (headerOf name)) rest
      else if inside then
        match splitOnce '=' line with
        | none => parseConfigValue name key inside rest
        | some (candidate, value) =>
            if eqIgnoreCase (trim candidate) key then some (trim value)
            else parseConfigValue name key inside rest
      else parseConfigValue name key inside rest

def rewriteLines (name key value : List Char) :
    Option (List Char) → List (List Char) → List (List Char × Bool)
  | _, [] => []
  | current, line :: rest =>
      let trimmed := trim line
      let current := if isHeader trimmed then some (headerName trimmed) else current
      if current = some name ∧ isKey key trimmed = true then
        (key ++ " = ".toList ++ value, true) :: rewriteLines name key value current rest
      else (line, false) :: rewriteLines name key value current rest

/-- The text that `persist_client_config_value` writes. -/
def rewriteConfig (text name key value : List Char) : Option (List Char) :=
  let lines := rewriteLines name key value none (textLines text)
  if lines.any Prod.snd then some (lines.flatMap fun (line, _) => line ++ ['\n']) else none

/-- `parse::<u16>`. -/
def parseU16 (text : List Char) : Option Nat :=
  let digits := if text.head? = some '+' then text.tail else text
  let value := digits.foldl (fun sum digit => 10 * sum + (digit.toNat - '0'.toNat)) 0
  if digits ≠ [] ∧ digits.all Char.isDigit ∧ value < 2 ^ 16 then some value else none

/-- What the programs use of their libraries. `canonicalKey` and `canonicalNetwork` are how
a key and a network are printed after they were read. -/
structure TunnelTools where
  digest : List Char → String
  resolve : List Char → Option String
  canonicalKey : List Char → Option (List Char)
  canonicalNetwork : List Char → Option (List Char)
  ipv4Network : List Char → Bool
  ipv4Address : List Char → Bool
  ipv6Address : List Char → Bool

structure TunnelConfig where
  peerPublicKey : List Char
  allowedIps : List (List Char)
  endpoint : String
  mtu : Nat
  deriving DecidableEq

def listEntries (value : List Char) : List (List Char) :=
  ((pieces ',' value).map trim).filter fun entry => entry ≠ []

/-- `parse_tunnel_config`; `none` is a config that is not accepted. -/
def parseTunnelConfig (tools : TunnelTools) (text : List Char) : Option TunnelConfig := do
  let value (name key : String) := optionalValue name.toList key.toList false (textLines text)
  let privateKey ← value "Interface" "PrivateKey"
  let _ ← tools.canonicalKey privateKey
  let publicKey ← value "Peer" "PublicKey"
  let key ← tools.canonicalKey publicKey
  let address ← value "Interface" "Address"
  if tools.ipv4Address address then
    let allowed ← value "Peer" "AllowedIPs"
    let networks ← (listEntries allowed).mapM tools.canonicalNetwork
    if (listEntries allowed).any tools.ipv4Network then
      let endpoint ← value "Peer" "Endpoint"
      let resolved ← tools.resolve endpoint
      some ⟨key, networks, resolved, ((value "Interface" "MTU").bind parseU16).getD 1280⟩
    else none
  else none

structure RuntimeStatus where
  active : Bool
  launchId : Nat
  configFingerprint : String
  peerPublicKey : List Char
  allowedIps : List (List Char)
  endpoint : String
  mtu : Nat
  deriving DecidableEq

structure TunnelHelper where
  launchId : Nat
  configFingerprint : String
  config : TunnelConfig
  endpoint : String
  mtu : Nat
  status : RuntimeStatus
  deriving DecidableEq

structure Tunnel where
  config : List Char
  helper : Option TunnelHelper := none
  statusFile : Option RuntimeStatus := none
  launches : Nat := 0
  deriving DecidableEq

def launchedHelper (tools : TunnelTools) (tunnel : Tunnel) (config : TunnelConfig) :
    TunnelHelper :=
  { launchId := tunnel.launches
    configFingerprint := tools.digest tunnel.config
    config := config
    endpoint := config.endpoint
    mtu := config.mtu
    status :=
      { active := true
        launchId := tunnel.launches
        configFingerprint := tools.digest tunnel.config
        peerPublicKey := config.peerPublicKey
        allowedIps := config.allowedIps
        endpoint := config.endpoint
        mtu := config.mtu } }

/-- A start stops the helper that runs and launches another, which may fail. -/
def Tunnel.start (tools : TunnelTools) (tunnel : Tunnel) (starts : Bool) : Tunnel :=
  match parseTunnelConfig tools tunnel.config with
  | some config =>
      if starts then
        { tunnel with
          helper := some (launchedHelper tools tunnel config)
          statusFile := some (launchedHelper tools tunnel config).status
          launches := tunnel.launches + 1 }
      else { tunnel with helper := none, statusFile := none, launches := tunnel.launches + 1 }
  | none => { tunnel with helper := none, statusFile := none, launches := tunnel.launches + 1 }

def Tunnel.heartbeat (tunnel : Tunnel) (written : Bool) : Tunnel :=
  match tunnel.helper with
  | some helper => if written then { tunnel with statusFile := some helper.status } else tunnel
  | none => tunnel

structure CallFaults where
  fresh : Bool := true
  reached : Bool := true
  applied : Bool := true
  statusWritten : Bool := true
  replied : Bool := true
  persisted : Bool := true
  deriving DecidableEq

/-- The helper that takes a request, after the checks of both sides. -/
def Tunnel.control (tunnel : Tunnel) (faults : CallFaults) :
    Except String (TunnelHelper × RuntimeStatus) :=
  match tunnel.statusFile, tunnel.helper with
  | some status, some helper =>
      if status.active = false ∨ faults.fresh = false then
        .error "Managed tunnel helper is not active or its status is stale"
      else if faults.reached = false then .error "Could not connect to managed tunnel control socket"
      else if status.launchId ≠ helper.launchId then
        .error "the expected helper launch ID is stale"
      else if status.configFingerprint ≠ helper.configFingerprint then
        .error "the expected WireGuard config fingerprint is stale"
      else .ok (helper, status)
  | _, _ => .error "Managed tunnel runtime status is unavailable"

def Tunnel.persistValue (tunnel : Tunnel) (name key value : List Char) (persisted : Bool) :
    Except String Unit × Tunnel :=
  match rewriteConfig tunnel.config name key value with
  | none => (.error "Managed WireGuard configuration has no such field", tunnel)
  | some text =>
      if persisted then (.ok (), { tunnel with config := text })
      else (.error "Could not persist managed WireGuard value", tunnel)

def endpointText (host port : List Char) (brackets : Bool) : List Char :=
  if brackets then '[' :: (host ++ "]:".toList ++ port) else host ++ ':' :: port

def formatEndpoint (tools : TunnelTools) (endpoint : NetworkEndpoint) : List Char :=
  endpointText endpoint.host.toList (toString endpoint.port).toList
    (tools.ipv6Address endpoint.host.toList)

def resolvedText (endpoint : NetworkEndpoint) : List Char :=
  endpointText endpoint.host.toList (toString endpoint.port).toList
    (endpoint.host.toList.contains ':')

/-- The checks of `apply_peer_endpoint` and the address it gives to the device. -/
def admitEndpoint (tools : TunnelTools) (helper : TunnelHelper) (peerPublicKey : List Char)
    (endpoint : NetworkEndpoint) : Except String String :=
  match tools.canonicalKey peerPublicKey with
  | none => .error "WireGuard key is not valid base64"
  | some key =>
      if key ≠ helper.config.peerPublicKey then
        .error "the requested peer key does not match the running tunnel"
      else do
        endpoint.validate
        match tools.resolve (resolvedText endpoint) with
        | none => .error "failed resolving WireGuard endpoint"
        | some address => .ok address

def TunnelHelper.setEndpoint (helper : TunnelHelper) (address : String) : TunnelHelper :=
  { helper with endpoint := address, status := { helper.status with endpoint := address } }

def TunnelHelper.setMtu (helper : TunnelHelper) (mtu : Nat) : TunnelHelper :=
  { helper with mtu := mtu, status := { helper.status with mtu := mtu } }

/-- `set_managed_gotatun_peer_endpoint`. -/
def Tunnel.setPeerEndpoint (tools : TunnelTools) (tunnel : Tunnel) (endpoint : NetworkEndpoint)
    (faults : CallFaults) : Except String Unit × Tunnel :=
  match endpoint.validate with
  | .error text => (.error text, tunnel)
  | .ok _ =>
      match tunnel.control faults with
      | .error text => (.error text, tunnel)
      | .ok (helper, status) =>
          match admitEndpoint tools helper status.peerPublicKey endpoint with
          | .error text => (.error text, tunnel)
          | .ok address =>
              let changed := helper.setEndpoint address
              if faults.applied = false then
                (.error "GotaTun rejected the endpoint update", tunnel)
              else if faults.statusWritten = false then
                (.error "endpoint changed but runtime status could not be persisted",
                  { tunnel with helper := some changed })
              else if faults.replied = false then
                (.error "managed tunnel control reply is missing",
                  { tunnel with helper := some changed, statusFile := some changed.status })
              else
                Tunnel.persistValue
                  { tunnel with helper := some changed, statusFile := some changed.status }
                  "Peer".toList "Endpoint".toList (formatEndpoint tools endpoint) faults.persisted

/-- `set_managed_gotatun_mtu`. The helper does not report a status that it could not write. -/
def Tunnel.setMtu (tunnel : Tunnel) (mtu : Nat) (faults : CallFaults) :
    Except String Unit × Tunnel :=
  if mtu < 576 ∨ 9000 < mtu then (.error "Managed tunnel MTU must be between 576 and 9000", tunnel)
  else
    match tunnel.control faults with
    | .error text => (.error text, tunnel)
    | .ok (helper, _) =>
        let changed := helper.setMtu mtu
        let statusFile := if faults.statusWritten then some changed.status else tunnel.statusFile
        if faults.applied = false then (.error "failed applying the interface MTU", tunnel)
        else if faults.replied = false then
          (.error "managed tunnel control reply is missing",
            { tunnel with helper := some changed, statusFile := statusFile })
        else
          Tunnel.persistValue { tunnel with helper := some changed, statusFile := statusFile }
            "Interface".toList "MTU".toList (toString mtu).toList faults.persisted

def normalizeAllowedIps (value : List Char) : List (List Char) :=
  (listEntries value).mergeSort fun left right => !decide (right < left)

def joinEntries (entries : List (List Char)) : List Char := [','].intercalate entries

structure ExpectedTunnel where
  peerPublicKey : List Char
  allowedIps : List Char
  deriving DecidableEq

/-- `load_expected_local_tunnel`. -/
def loadExpectedTunnel (tools : TunnelTools) (text : List Char) : Option ExpectedTunnel := do
  let value (name key : String) := parseConfigValue name.toList key.toList false (textLines text)
  let privateKey ← value "Interface" "PrivateKey"
  let _ ← tools.canonicalKey privateKey
  let publicKey ← value "Peer" "PublicKey"
  let allowed ← value "Peer" "AllowedIPs"
  some ⟨publicKey, allowed⟩

def RuntimeStatus.owns (status : RuntimeStatus) (tools : TunnelTools) (text : List Char)
    (expected : ExpectedTunnel) : Bool :=
  status.configFingerprint = tools.digest text && status.peerPublicKey = expected.peerPublicKey &&
    normalizeAllowedIps (joinEntries status.allowedIps) = normalizeAllowedIps expected.allowedIps

def Tunnel.accepts (tools : TunnelTools) (tunnel : Tunnel) (fresh recent : Bool) : Bool :=
  match loadExpectedTunnel tools tunnel.config, tunnel.statusFile with
  | some expected, some status =>
      status.active && fresh && tunnel.helper.isSome && status.owns tools tunnel.config expected &&
        recent
  | _, _ => false

/-- `verify_managed_gotatun_tunnel`. A tunnel that is not accepted is replaced where repairs
are automatic. -/
def Tunnel.verify (tools : TunnelTools) (tunnel : Tunnel) (fresh recent repairs starts : Bool) :
    Bool × Tunnel :=
  if tunnel.accepts tools fresh recent then (true, tunnel)
  else if repairs && (loadExpectedTunnel tools tunnel.config).isSome then
    (false, tunnel.start tools starts)
  else (false, tunnel)

inductive TunnelEvent where
  | start (starts : Bool)
  | heartbeat (written : Bool)
  | setPeerEndpoint (endpoint : NetworkEndpoint) (faults : CallFaults)
  | setMtu (mtu : Nat) (faults : CallFaults)
  | verify (fresh recent repairs starts : Bool)
  deriving DecidableEq

def Tunnel.step (tools : TunnelTools) (tunnel : Tunnel) : TunnelEvent → Tunnel
  | .start starts => tunnel.start tools starts
  | .heartbeat written => tunnel.heartbeat written
  | .setPeerEndpoint endpoint faults => (tunnel.setPeerEndpoint tools endpoint faults).2
  | .setMtu mtu faults => (tunnel.setMtu mtu faults).2
  | .verify fresh recent repairs starts => (tunnel.verify tools fresh recent repairs starts).2

inductive Tunnelled (tools : TunnelTools) (allow : Tunnel → TunnelEvent → Prop)
    (text : List Char) : Tunnel → Prop where
  | initial : Tunnelled tools allow text { config := text }
  | step {tunnel : Tunnel} (event : TunnelEvent) (reached : Tunnelled tools allow text tunnel)
      (allowed : allow tunnel event) : Tunnelled tools allow text (tunnel.step tools event)

def InStep (tools : TunnelTools) (tunnel : Tunnel) (helper : TunnelHelper) : Prop :=
  (parseTunnelConfig tools tunnel.config).map (fun config => (config.endpoint, config.mtu)) =
    some (helper.endpoint, helper.mtu)

def Tunnel.changes (tools : TunnelTools) (tunnel : Tunnel) : TunnelEvent → Bool
  | .setPeerEndpoint endpoint faults =>
      match tunnel.control faults with
      | .ok (helper, status) =>
          (admitEndpoint tools helper status.peerPublicKey endpoint).isOk && faults.applied
      | .error _ => false
  | .setMtu mtu faults =>
      decide (576 ≤ mtu) && decide (mtu ≤ 9000) && (tunnel.control faults).isOk && faults.applied
  | _ => false

/-- The file already has the value of the call, in the form in which it is written. -/
def Tunnel.repeats (tools : TunnelTools) (tunnel : Tunnel) : TunnelEvent → Bool
  | .setPeerEndpoint endpoint _ =>
      rewriteConfig tunnel.config "Peer".toList "Endpoint".toList (formatEndpoint tools endpoint) =
          some tunnel.config &&
        (parseTunnelConfig tools tunnel.config).map TunnelConfig.endpoint =
          tools.resolve (resolvedText endpoint)
  | .setMtu mtu _ =>
      rewriteConfig tunnel.config "Interface".toList "MTU".toList (toString mtu).toList =
          some tunnel.config &&
        (parseTunnelConfig tools tunnel.config).map TunnelConfig.mtu = some mtu
  | _ => true

def Repeats (tools : TunnelTools) (tunnel : Tunnel) (event : TunnelEvent) : Prop :=
  tunnel.changes tools event = true → tunnel.repeats tools event = true

/-- The file has the peer's key and networks as the helper prints them. -/
def Canonical (tools : TunnelTools) (text : List Char) : Prop :=
  ∀ config, parseTunnelConfig tools text = some config →
    ∃ expected, loadExpectedTunnel tools text = some expected ∧
      config.peerPublicKey = expected.peerPublicKey ∧
      normalizeAllowedIps (joinEntries config.allowedIps) = normalizeAllowedIps expected.allowedIps

structure FileKept (tools : TunnelTools) (text : List Char) (tunnel : Tunnel) : Prop where
  config : tunnel.config = text
  helper : ∀ helper, tunnel.helper = some helper →
    ∃ earlier config, earlier.config = text ∧ parseTunnelConfig tools text = some config ∧
      helper = launchedHelper tools earlier config ∧ tunnel.statusFile = some helper.status

section FileKept

variable {tools : TunnelTools} {text : List Char} {tunnel : Tunnel}

theorem FileKept.start (steady : FileKept tools text tunnel) (starts : Bool) :
    FileKept tools text (tunnel.start tools starts) := by
  unfold Tunnel.start
  split
  · rename_i config parsed
    rw [steady.config] at parsed
    split
    · refine ⟨steady.config, ?_⟩
      intro helper running
      cases running
      exact ⟨tunnel, config, steady.config, parsed, rfl, rfl⟩
    · refine ⟨steady.config, ?_⟩
      intro helper running
      cases running
  · refine ⟨steady.config, ?_⟩
    intro helper running
    cases running

theorem FileKept.heartbeat (steady : FileKept tools text tunnel) (written : Bool) :
    FileKept tools text (tunnel.heartbeat written) := by
  unfold Tunnel.heartbeat
  split
  · rename_i helper running
    split
    · refine ⟨steady.config, ?_⟩
      intro other held
      obtain ⟨earlier, config, same, parsed, launched, _⟩ := steady.helper other held
      cases running.symm.trans held
      exact ⟨earlier, config, same, parsed, launched, rfl⟩
    · exact steady
  · exact steady

theorem FileKept.verify (steady : FileKept tools text tunnel) (fresh recent repairs starts : Bool) :
    FileKept tools text (tunnel.verify tools fresh recent repairs starts).2 := by
  unfold Tunnel.verify
  split
  · exact steady
  · split
    · exact steady.start starts
    · exact steady

variable {helper : TunnelHelper}

theorem control_helper {faults : CallFaults} {status : RuntimeStatus}
    (controlled : tunnel.control faults = .ok (helper, status)) :
    tunnel.helper = some helper ∧ tunnel.statusFile = some status := by
  unfold Tunnel.control at controlled
  split at controlled
  · rename_i found running file owner
    split at controlled
    · cases controlled
    · split at controlled
      · cases controlled
      · split at controlled
        · cases controlled
        · split at controlled
          · cases controlled
          · cases controlled
            exact ⟨owner, file⟩
  · cases controlled

theorem persistValue_keeps {name key value : List Char} {persisted : Bool}
    (unchanged : rewriteConfig tunnel.config name key value = some tunnel.config) :
    (tunnel.persistValue name key value persisted).2 = tunnel := by
  unfold Tunnel.persistValue
  rw [unchanged]
  cases persisted <;> rfl

theorem Tunnel.with_helper (running : tunnel.helper = some helper) :
    { tunnel with helper := some helper } = tunnel := by
  rw [← running]

theorem Tunnel.with_records {file : Option RuntimeStatus} (running : tunnel.helper = some helper)
    (recorded : tunnel.statusFile = file) :
    { tunnel with helper := some helper, statusFile := file } = tunnel := by
  rw [← running, ← recorded]

theorem admitEndpoint_resolves {key : List Char} {endpoint : NetworkEndpoint} {address : String}
    (admitted : admitEndpoint tools helper key endpoint = .ok address) :
    tools.resolve (resolvedText endpoint) = some address := by
  unfold admitEndpoint at admitted
  split at admitted
  · cases admitted
  · split at admitted
    · cases admitted
    · cases valid : endpoint.validate with
      | error text =>
          rw [valid] at admitted
          cases admitted
      | ok value =>
          rw [valid] at admitted
          change (match tools.resolve (resolvedText endpoint) with
            | none => Except.error "failed resolving WireGuard endpoint"
            | some address => .ok address) = .ok address at admitted
          split at admitted
          · cases admitted
          · rename_i found resolved
            cases admitted
            exact resolved

theorem FileKept.setPeerEndpoint (steady : FileKept tools text tunnel) {endpoint : NetworkEndpoint}
    {faults : CallFaults} (repeats : Repeats tools tunnel (.setPeerEndpoint endpoint faults)) :
    (tunnel.setPeerEndpoint tools endpoint faults).2 = tunnel := by
  unfold Tunnel.setPeerEndpoint
  split
  · rfl
  · split
    · rfl
    · rename_i helper status controlled
      split
      · rfl
      · rename_i address admitted
        by_cases refused : faults.applied = false
        · rw [if_pos refused]
        · have applied : faults.applied = true := by simpa using refused
          have changes : tunnel.changes tools (.setPeerEndpoint endpoint faults) = true := by
            simp only [Tunnel.changes, controlled, admitted, applied, Except.isOk, Except.toBool,
              Bool.and_self]
          have repeated := repeats changes
          simp only [Tunnel.repeats, Bool.and_eq_true, decide_eq_true_eq] at repeated
          obtain ⟨unchanged, same⟩ := repeated
          obtain ⟨running, _⟩ := control_helper controlled
          obtain ⟨earlier, config, _, parsed, launched, file⟩ := steady.helper helper running
          rw [steady.config, parsed, admitEndpoint_resolves admitted] at same
          have kept : helper.setEndpoint address = helper := by
            rw [launched, ← Option.some.inj same]
            rfl
          simp only [kept, Tunnel.with_helper running, Tunnel.with_records running file]
          rw [if_neg refused]
          split
          · rfl
          · split
            · rfl
            · exact persistValue_keeps unchanged

theorem FileKept.setMtu (steady : FileKept tools text tunnel) {mtu : Nat} {faults : CallFaults}
    (repeats : Repeats tools tunnel (.setMtu mtu faults)) :
    (tunnel.setMtu mtu faults).2 = tunnel := by
  unfold Tunnel.setMtu
  split
  · rfl
  · rename_i range
    split
    · rfl
    · rename_i helper status controlled
      by_cases refused : faults.applied = false
      · simp only [refused, if_true]
      · have applied : faults.applied = true := by simpa using refused
        have changes : tunnel.changes tools (.setMtu mtu faults) = true := by
          simp only [Tunnel.changes, controlled, applied, Except.isOk, Except.toBool,
            Bool.and_true, Bool.and_eq_true, decide_eq_true_eq]
          omega
        have repeated := repeats changes
        simp only [Tunnel.repeats, Bool.and_eq_true, decide_eq_true_eq] at repeated
        obtain ⟨unchanged, same⟩ := repeated
        obtain ⟨running, _⟩ := control_helper controlled
        obtain ⟨earlier, config, _, parsed, launched, file⟩ := steady.helper helper running
        rw [steady.config, parsed] at same
        have kept : helper.setMtu mtu = helper := by
          rw [launched, ← Option.some.inj same]
          rfl
        have recorded : tunnel.statusFile =
            if faults.statusWritten then some helper.status else tunnel.statusFile := by
          split
          · exact file
          · rfl
        simp only [kept, Tunnel.with_records running recorded]
        rw [if_neg refused]
        split
        · rfl
        · exact persistValue_keeps unchanged

end FileKept

theorem tunnelled_fileKept {tools : TunnelTools} {text : List Char} {tunnel : Tunnel}
    (reached : Tunnelled tools (Repeats tools) text tunnel) : FileKept tools text tunnel := by
  induction reached with
  | initial =>
      refine ⟨rfl, ?_⟩
      intro helper running
      cases running
  | step event _ allowed ih =>
      cases event with
      | start starts => exact ih.start starts
      | heartbeat written => exact ih.heartbeat written
      | setPeerEndpoint endpoint faults =>
          show FileKept tools text (Tunnel.setPeerEndpoint tools _ endpoint faults).2
          rw [ih.setPeerEndpoint allowed]
          exact ih
      | setMtu mtu faults =>
          show FileKept tools text (Tunnel.setMtu _ mtu faults).2
          rw [ih.setMtu allowed]
          exact ih
      | verify fresh recent repairs starts => exact ih.verify fresh recent repairs starts

theorem FileKept.accepts {tools : TunnelTools} {text : List Char} {tunnel : Tunnel}
    (steady : FileKept tools text tunnel) (canonical : Canonical tools text) {helper : TunnelHelper}
    (running : tunnel.helper = some helper) : tunnel.accepts tools true true = true := by
  obtain ⟨earlier, config, same, parsed, launched, file⟩ := steady.helper helper running
  obtain ⟨expected, loaded, key, networks⟩ := canonical config parsed
  unfold Tunnel.accepts
  rw [steady.config, loaded, file, running, launched]
  simp [RuntimeStatus.owns, launchedHelper, same, key, networks]

/-- While every change that reaches the device repeats the value of the file, a running
tunnel is accepted and has the endpoint and the MTU of the file, after every call. -/
theorem records_in_step {tools : TunnelTools} {text : List Char} {tunnel : Tunnel}
    (canonical : Canonical tools text) (reached : Tunnelled tools (Repeats tools) text tunnel)
    {helper : TunnelHelper} (running : tunnel.helper = some helper) :
    (∀ repairs starts, tunnel.verify tools true true repairs starts = (true, tunnel)) ∧
      InStep tools tunnel helper := by
  have steady := tunnelled_fileKept reached
  constructor
  · intro repairs starts
    unfold Tunnel.verify
    rw [if_pos (steady.accepts canonical running)]
  · obtain ⟨earlier, config, _, parsed, launched, _⟩ := steady.helper helper running
    unfold InStep
    rw [steady.config, parsed, launched]
    rfl

def sampleTools : TunnelTools where
  digest := String.ofList
  resolve text := some (String.ofList text)
  canonicalKey := some
  canonicalNetwork := some
  ipv4Network _ := true
  ipv4Address _ := true
  ipv6Address host := host.contains ':'

def sampleConfig : List Char :=
  ["[Interface]", "PrivateKey = cHJpdmF0ZQ==", "Address = 10.44.0.2/32", "MTU = 1280", "",
    "[Peer]", "PublicKey = cHVibGlj", "AllowedIPs = 10.44.0.1/32",
    "Endpoint = 192.0.2.1:51820"].flatMap fun line => line.toList ++ ['\n']

def sampleTunnel : Tunnel := Tunnel.start sampleTools { config := sampleConfig } true

theorem sampleTunnel_reached {allow : Tunnel → TunnelEvent → Prop}
    (starts : allow { config := sampleConfig } (.start true)) :
    Tunnelled sampleTools allow sampleConfig sampleTunnel :=
  .step (.start true) .initial starts

theorem sampleConfig_canonical : Canonical sampleTools sampleConfig := by
  have parsed : parseTunnelConfig sampleTools sampleConfig = some
      ⟨"cHVibGlj".toList, ["10.44.0.1/32".toList], "192.0.2.1:51820", 1280⟩ := by decide +kernel
  have loaded : loadExpectedTunnel sampleTools sampleConfig = some
      ⟨"cHVibGlj".toList, "10.44.0.1/32".toList⟩ := by decide +kernel
  intro config same
  cases parsed.symm.trans same
  exact ⟨_, loaded, rfl, by decide +kernel⟩

theorem repeated_mtu_in_step :
    ∃ tunnel helper, Tunnelled sampleTools (Repeats sampleTools) sampleConfig tunnel ∧
      (sampleTunnel.setMtu 1280 {}).1.isOk = true ∧ tunnel = (sampleTunnel.setMtu 1280 {}).2 ∧
      tunnel.helper = some helper ∧
      tunnel.verify sampleTools true true true true = (true, tunnel) ∧
      InStep sampleTools tunnel helper := by
  have reached : Tunnelled sampleTools (Repeats sampleTools) sampleConfig
      (sampleTunnel.step sampleTools (.setMtu 1280 {})) := by
    apply Tunnelled.step _ (sampleTunnel_reached nofun)
    intro _
    decide +kernel
  have found : (sampleTunnel.step sampleTools (.setMtu 1280 {})).helper.isSome = true := by
    decide +kernel
  obtain ⟨helper, running⟩ := Option.isSome_iff_exists.mp found
  obtain ⟨accepted, same⟩ := records_in_step sampleConfig_canonical reached running
  exact ⟨_, helper, reached, by decide +kernel, rfl, running, accepted true true, same⟩

/-- A new MTU is set and the verification replaces the tunnel; a new endpoint is set, the
status cannot be written, and the device is left with an endpoint that the file lacks. -/
theorem changed_value_out_of_step :
    Tunnelled sampleTools (fun _ _ => True) sampleConfig sampleTunnel ∧
      (sampleTunnel.setMtu 1300 {}).1.isOk = true ∧
      ((sampleTunnel.setMtu 1300 {}).2.verify sampleTools true true true true).1 = false ∧
      ((sampleTunnel.setMtu 1300 {}).2.verify sampleTools true true true true).2.helper.map
          TunnelHelper.launchId ≠ sampleTunnel.helper.map TunnelHelper.launchId ∧
      (sampleTunnel.setPeerEndpoint sampleTools ⟨"198.51.100.9", 3478⟩
          { statusWritten := false }).1.isOk = false ∧
      ∃ helper,
        (sampleTunnel.setPeerEndpoint sampleTools ⟨"198.51.100.9", 3478⟩
          { statusWritten := false }).2.helper = some helper ∧
        ¬ InStep sampleTools (sampleTunnel.setPeerEndpoint sampleTools ⟨"198.51.100.9", 3478⟩
          { statusWritten := false }).2 helper := by
  have changed : (sampleTunnel.setMtu 1300 {}).1.isOk = true ∧
      ((sampleTunnel.setMtu 1300 {}).2.verify sampleTools true true true true).1 = false ∧
      ((sampleTunnel.setMtu 1300 {}).2.verify sampleTools true true true true).2.helper.map
          TunnelHelper.launchId ≠ sampleTunnel.helper.map TunnelHelper.launchId := by
    decide +kernel
  have failed : (sampleTunnel.setPeerEndpoint sampleTools ⟨"198.51.100.9", 3478⟩
        { statusWritten := false }).1.isOk = false ∧
      (sampleTunnel.setPeerEndpoint sampleTools ⟨"198.51.100.9", 3478⟩
        { statusWritten := false }).2.helper.map TunnelHelper.endpoint =
        some "198.51.100.9:3478" ∧
      (parseTunnelConfig sampleTools (sampleTunnel.setPeerEndpoint sampleTools
        ⟨"198.51.100.9", 3478⟩ { statusWritten := false }).2.config).map TunnelConfig.endpoint =
        some "192.0.2.1:51820" := by decide +kernel
  obtain ⟨refused, found, kept⟩ := failed
  obtain ⟨set, verified, replaced⟩ := changed
  refine ⟨sampleTunnel_reached trivial, set, verified, replaced, refused, ?_⟩
  obtain ⟨helper, running, endpoint⟩ := Option.map_eq_some_iff.mp found
  refine ⟨helper, running, ?_⟩
  intro same
  obtain ⟨config, parsed, equal⟩ := Option.map_eq_some_iff.mp same
  rw [parsed, Option.map_some] at kept
  have different := (Prod.mk.inj equal).1
  rw [Option.some.inj kept, endpoint] at different
  exact absurd different (by decide)

end Noland.Network
