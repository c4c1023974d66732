import Noland.Backup.Evidence
import Noland.Restore.Download

/-!
Chunks are left out of the new packs on three grounds: the parent's index has them, the remote
content table has them, or a pack of this run holds them. The table and the stores are followed
together over sequences of runs, each of which may fail or stop at any operation.
-/

namespace Noland.Backup

open Noland.Core Noland.StateDb Noland.Requests Noland.Restore

def Indexed (files : List ManifestFile) (index : List PackIndexEntry) : Prop :=
  ∀ file ∈ files, ∀ chunk ∈ file.chunks, ∃ entry ∈ index, entry.chunkHash = chunk.hash

structure Closed (packs : List String) (bundle : Parent) : Prop where
  indexed : Indexed bundle.1.files bundle.2
  uploaded : ∀ entry ∈ bundle.2, entry.packId ∈ packs
  once : (bundle.2.map PackIndexEntry.chunkHash).Nodup

/-- Every committed pair is closed, and no download plan misses a chunk. -/
def IndexClosed (agent : Agent) : Prop :=
  ∀ storage, ∀ bundle ∈ (agent.stores storage).bundles,
    Closed (agent.stores storage).packs bundle.2 ∧
    ∀ mode verified target, ∃ result,
      planMissingPackJobs bundle.2.1 mode bundle.2.2 verified target = .ok result

inductive Backups (allow : BackupCall → AgentConfig → Event agentInterface StateError → Agent → Prop)
    (start : Agent) : Agent → Prop where
  | none : Backups allow start start
  | next {agent : Agent} {call : BackupCall} {outcome : Outcome StateError BundleManifest}
      {final : AgentConfig} (before : Backups allow start agent)
      (run : Runs agentHandler (allow call) (runBackup call) ⟨[], agent⟩ outcome final) :
      Backups allow start final.state

/-- A cached parent is a bundle of the provider that is backed up to, and no
feeder of packs is stopped early. -/
def SameProvider (call : BackupCall) (config : AgentConfig)
    (event : Event agentInterface StateError) (_ : Agent) : Prop :=
  FullyFed event ∧
    match event with
    | ⟨.readCachedParent appId bundle, .ok (some parent)⟩ =>
        lookupParent (config.state.stores call.storage).bundles appId bundle = some parent
    | _ => True

def Uploaded (storage : String) (entries : List PackIndexEntry) (agent : Agent) : Prop :=
  ∀ entry ∈ entries, entry.packId ∈ (agent.stores storage).packs

structure StoresClosed (agent : Agent) : Prop where
  bundles : ∀ storage, ∀ bundle ∈ (agent.stores storage).bundles,
    Closed (agent.stores storage).packs bundle.2
  remembered : ∀ row ∈ agent.remoteContent,
    row.entry.packId ∈ (agent.stores row.storageId).packs ∧ row.entry.chunkHash = row.contentHash

def AgentOp.unpublished : AgentOp → Bool
  | .publishBundle _ _ | .rememberPackIndex _ _ => false
  | _ => true

theorem stores_withStore (agent : Agent) (storage other : String) (store : Store) :
    (agent.withStore storage store).stores other =
      if other = storage then store else agent.stores other := rfl

variable {agent : Agent} {storage : String}

theorem packs_after {op : AgentOp} {storage packId : String}
    (held : packId ∈ (agent.stores storage).packs) :
    packId ∈ ((agent.after op).stores storage).packs := by
  cases op with
  | uploadPack other added =>
      simp only [Agent.after, stores_withStore]
      split
      · rename_i same
        exact List.mem_append_left _ (same ▸ held)
      · exact held
  | publishBundle other parent =>
      simp only [Agent.after, stores_withStore]
      split
      · rename_i same
        exact same ▸ held
      · exact held
  | _ => exact held

theorem bundles_after {op : AgentOp} (quiet : op.unpublished = true) (storage : String) :
    ((agent.after op).stores storage).bundles = (agent.stores storage).bundles := by
  cases op with
  | uploadPack other added =>
      simp only [Agent.after, stores_withStore]
      split
      · rename_i same
        rw [same]
      · rfl
  | publishBundle other parent => cases quiet
  | _ => rfl

theorem remoteContent_after {op : AgentOp} (quiet : op.unpublished = true) :
    (agent.after op).remoteContent = agent.remoteContent := by
  cases op <;> first | rfl | cases quiet

theorem Closed.mono {packs more : List String} {bundle : Parent} (closed : Closed packs bundle)
    (grown : ∀ packId ∈ packs, packId ∈ more) : Closed more bundle :=
  ⟨closed.indexed, fun entry member => grown _ (closed.uploaded entry member), closed.once⟩

theorem Uploaded.after {entries : List PackIndexEntry} (uploaded : Uploaded storage entries agent)
    (op : AgentOp) : Uploaded storage entries (agent.after op) :=
  fun entry member => packs_after (uploaded entry member)

theorem Uploaded.of_subset {entries fewer : List PackIndexEntry}
    (uploaded : Uploaded storage entries agent) (among : ∀ entry ∈ fewer, entry ∈ entries) :
    Uploaded storage fewer agent :=
  fun entry member => uploaded entry (among entry member)

theorem storesClosed_after {op : AgentOp} (quiet : op.unpublished = true)
    (closed : StoresClosed agent) : StoresClosed (agent.after op) where
  bundles storage bundle member := by
    rw [bundles_after quiet] at member
    exact (closed.bundles storage bundle member).mono fun _ held => packs_after held
  remembered row member := by
    rw [remoteContent_after quiet] at member
    obtain ⟨held, same⟩ := closed.remembered row member
    exact ⟨packs_after held, same⟩

theorem storesClosed_remember {index : List PackIndexEntry} (closed : StoresClosed agent)
    (uploaded : Uploaded storage index agent) :
    StoresClosed (agent.after (.rememberPackIndex storage index)) where
  bundles := closed.bundles
  remembered row member := by
    rcases mem_upsertRemoteContentEntries member with old | new
    · exact closed.remembered row old
    · obtain ⟨entry, inside, rfl⟩ := List.mem_map.mp new
      exact ⟨uploaded entry inside, rfl⟩

theorem storesClosed_publish {bundle : Parent} (closed : StoresClosed agent)
    (this : Closed (agent.stores storage).packs bundle) :
    StoresClosed (agent.after (.publishBundle storage bundle)) where
  bundles other found member := by
    simp only [Agent.after, stores_withStore] at member ⊢
    split at member
    · rename_i same
      subst same
      rw [if_pos rfl]
      rcases List.mem_append.mp member with old | new
      · exact closed.bundles other found (List.mem_filter.mp old).1
      · rw [List.mem_singleton.mp new]
        exact this
    · rename_i different
      rw [if_neg different]
      exact closed.bundles other found member
  remembered row member := by
    obtain ⟨held, same⟩ := closed.remembered row member
    exact ⟨packs_after held, same⟩

theorem uploaded_settle {entries : List PackIndexEntry} :
    Uploaded storage entries agent.settle ↔ Uploaded storage entries agent := Iff.rfl

theorem storesClosed_settle (closed : StoresClosed agent) : StoresClosed agent.settle :=
  ⟨closed.bundles, closed.remembered⟩

structure Holding (call : BackupCall) (known : List PackIndexEntry) (config : AgentConfig) :
    Prop where
  closed : StoresClosed config.state
  uploaded : Uploaded call.storage known config.state

def EndsClosed (config : AgentConfig) : Prop := StoresClosed config.state

theorem sameProvider_fed {call : BackupCall} {config : AgentConfig}
    {event : Event agentInterface StateError} {state : Agent}
    (allowed : SameProvider call config event state) : FullyFed event := allowed.1

section Parts

variable {call : BackupCall} {known : List PackIndexEntry} {α : Type}

theorem uploaded_reply {op : AgentOp} {agent state : Agent} {reply : Except StateError op.Ret}
    (replied : Reply agentHandler op agent reply state)
    (uploaded : Uploaded call.storage known agent) : Uploaded call.storage known state := by
  rcases replied.state_cases with rfl | rfl
  · exact uploaded
  · exact (uploaded_settle.mpr uploaded).after op

theorem closed_reply {op : AgentOp} {agent state : Agent} {reply : Except StateError op.Ret}
    (quiet : op.unpublished = true) (replied : Reply agentHandler op agent reply state)
    (closed : StoresClosed agent) : StoresClosed state := by
  rcases replied.state_cases with rfl | rfl
  · exact closed
  · exact storesClosed_after quiet (storesClosed_settle closed)

theorem holding_uses {program : AgentProg α} {post : α → Prop}
    (uses : program.Uses (fun op : AgentOp => op.unpublished = true) FullyFed post) :
    Triple agentHandler (SameProvider call) (Holding call known) program
      (fun value config => post value ∧ Holding call known config) EndsClosed EndsClosed := by
  have spec : Triple agentHandler (SameProvider call) (Holding call known) program
      (fun value config => post value ∧ Holding call known config) (Holding call known)
      (Holding call known) := by
    apply Triple.uses uses
    · exact fun _ _ _ _ allowed => sameProvider_fed allowed
    · intro config op reply state quiet holding replied _
      exact ⟨closed_reply quiet replied holding.closed, uploaded_reply replied holding.uploaded⟩
  exact spec.weaken (fun _ before => before) (fun _ _ after => after)
    (fun _ holding => holding.closed) (fun _ holding => holding.closed)

theorem holding_ask {op : AgentOp} (quiet : op.unpublished = true) :
    Triple agentHandler (SameProvider call) (Holding call known) (ask op)
      (fun _ => Holding call known) EndsClosed EndsClosed :=
  (holding_uses (ask_uses quiet)).to_post (fun _ _ after => after.2)

theorem holding_remember {index : List PackIndexEntry}
    (among : ∀ entry ∈ index, entry ∈ known) :
    Triple agentHandler (SameProvider call) (Holding call known)
      (rememberRemotePackIndex call index) (fun _ => Holding call known) (Holding call known)
      (Holding call known) := by
  have keeps : ∀ (config : AgentConfig) (reply : Except StateError Unit) (state : Agent),
      Holding call known config →
      Reply agentHandler (.rememberPackIndex call.storage index) config.state reply state →
      Holding call known (config.record (.rememberPackIndex call.storage index) reply state) := by
    intro config reply state holding replied
    refine ⟨?_, uploaded_reply replied holding.uploaded⟩
    show StoresClosed state
    rcases replied.state_cases with rfl | rfl
    · exact holding.closed
    · exact storesClosed_remember (storesClosed_settle holding.closed)
        (holding.uploaded.of_subset among)
  apply Triple.ite
  · intro _
    apply Triple.perform
    · exact fun _ holding => holding
    · exact fun config value state holding replied _ => keeps config _ state holding replied
    · exact fun config error state holding replied _ => keeps config _ state holding replied
  · exact fun _ => Triple.done fun _ holding => holding

def parentIndex (parent : Option Parent) : List PackIndexEntry := (parent.map Prod.snd).getD []

def parentFiles (parent : Option Parent) : List ManifestFile :=
  (parent.map fun parent => parent.1.files).getD []

structure ParentHeld (call : BackupCall) (parent : Option Parent) (config : AgentConfig) : Prop where
  indexed : Indexed (parentFiles parent) (parentIndex parent)
  holding : Holding call (parentIndex parent) config

theorem parentHeld_some {parent : Parent} {config : AgentConfig}
    (closed : StoresClosed config.state)
    (this : Closed (config.state.stores call.storage).packs parent) :
    ParentHeld call (some parent) config :=
  ⟨this.indexed, closed, this.uploaded⟩

theorem parentHeld_none {config : AgentConfig} (closed : StoresClosed config.state) :
    ParentHeld call none config :=
  ⟨by simp [Indexed, parentFiles], closed, by simp [Uploaded, parentIndex]⟩

theorem mem_of_lookupParent {bundles : List ((AppId × Uuid) × Parent)} {appId : AppId}
    {bundle : Uuid} {parent : Parent} (found : lookupParent bundles appId bundle = some parent) :
    ((appId, bundle), parent) ∈ bundles := by
  unfold lookupParent at found
  obtain ⟨⟨key, value⟩, looked, same⟩ := Option.map_eq_some_iff.mp found
  have key_eq : key = (appId, bundle) := by simpa using List.find?_some looked
  subst same key_eq
  exact List.mem_of_find?_eq_some looked

theorem holding_rememberAttempt {index : List PackIndexEntry}
    (among : ∀ entry ∈ index, entry ∈ known) :
    Triple agentHandler (SameProvider call) (Holding call known)
      (rememberRemotePackIndex call index).attempt (fun _ => Holding call known) EndsClosed
      EndsClosed :=
  Triple.attempt ((holding_remember among).weaken (fun _ before => before) (fun _ _ after => after)
    (fun _ after => after) fun _ holding => holding.closed)
    (fun _ _ holding => holding) fun _ _ holding => holding

theorem found_map_ok {β γ : Type} {value : Option β} {f : β → γ} {result : γ}
    (answered : (Agent.found value).map f = .ok result) :
    ∃ whole, value = some whole ∧ f whole = result := by
  cases value with
  | none => cases answered
  | some whole => exact ⟨whole, rfl, Except.ok.inj answered⟩

def Stored (call : BackupCall) (bundle : Uuid) (manifest : BundleManifest) (config : AgentConfig) :
    Prop :=
  StoresClosed config.state ∧
    ∃ index, lookupParent (config.state.stores call.storage).bundles call.appId bundle =
      some (manifest, index)

theorem holding_fetchParent (bundle : Uuid) :
    Triple agentHandler (SameProvider call) EndsClosed (fetchParent call bundle)
      (fun parent => ParentHeld call (some parent)) EndsClosed EndsClosed := by
  apply Triple.bind (Stored call bundle)
  · apply Triple.perform
    · exact fun _ closed => closed
    · intro config manifest state closed replied _
      have still := closed_reply rfl replied closed
      obtain ⟨answered, rfl⟩ := replied.of_ok
      obtain ⟨⟨stored, index⟩, looked, same⟩ := found_map_ok answered
      subst same
      exact ⟨still, index, looked⟩
    · exact fun config error state closed replied _ => closed_reply rfl replied closed
  intro manifest
  apply Triple.bind fun index => ParentHeld call (some (manifest, index))
  · apply Triple.perform
    · exact fun _ stored => stored.1
    · intro config index state stored replied _
      obtain ⟨closed, other, there⟩ := stored
      have still := closed_reply rfl replied closed
      obtain ⟨answered, rfl⟩ := replied.of_ok
      obtain ⟨whole, looked, same⟩ := found_map_ok answered
      obtain rfl : (manifest, other) = whole := Option.some.inj (there.symm.trans looked)
      subst same
      exact parentHeld_some still (closed.bundles _ _ (mem_of_lookupParent there))
    · exact fun config error state stored replied _ => closed_reply rfl replied stored.1
  intro index
  apply Triple.learn fun _ held => held.indexed
  intro indexed
  have holding : Triple agentHandler (SameProvider call) (Holding call index)
      (do ask (.cacheParent (manifest, index))
          let _ ← (rememberRemotePackIndex call index).attempt
          .done (manifest, index))
      (fun parent => ParentHeld call (some parent)) EndsClosed EndsClosed := by
    apply Triple.bind fun _ => Holding call index
    · exact holding_ask rfl
    intro _
    apply Triple.bind fun _ => Holding call index
    · exact holding_rememberAttempt fun _ member => member
    intro _
    exact Triple.done fun config held => ⟨indexed, held⟩
  exact holding.of_pre (fun _ held => held.holding)

theorem holding_loadParent :
    Triple agentHandler (SameProvider call) EndsClosed (loadParent call) (ParentHeld call)
      EndsClosed EndsClosed := by
  have observe : ∀ op : AgentOp, op.unpublished = true →
      Triple agentHandler (SameProvider call) EndsClosed (tell op) (fun _ => EndsClosed)
        EndsClosed EndsClosed := by
    intro op quiet
    apply Triple.observe
    · exact fun _ closed => closed
    · exact fun config reply state closed replied _ => closed_reply quiet replied closed
  apply Triple.bind fun _ => EndsClosed
  · exact observe _ rfl
  intro latest
  split
  · rename_i bundle
    -- an allowed reply of the cache is a bundle of the provider
    apply Triple.bind fun (cached : Except StateError (Option Parent)) config =>
      EndsClosed config ∧ ∀ parent, cached = .ok (some parent) → ParentHeld call (some parent) config
    · apply Triple.observe
      · exact fun _ closed => closed
      · intro config reply state closed replied allowed
        have still := closed_reply rfl replied closed
        refine ⟨still, ?_⟩
        rintro parent rfl
        obtain ⟨_, rfl⟩ := replied.of_ok
        exact parentHeld_some still (closed.bundles _ _ (mem_of_lookupParent allowed.2))
    intro cached
    have fetching : Triple agentHandler (SameProvider call) EndsClosed
        (do let fetched ← (fetchParent call bundle).attempt
            .done fetched.toOption) (ParentHeld call) EndsClosed EndsClosed := by
      apply Triple.bind fun fetched => ParentHeld call fetched.toOption
      · apply Triple.attempt (holding_fetchParent bundle)
        · exact fun _ _ held => held
        · exact fun _ _ closed => parentHeld_none closed
      · intro fetched
        exact Triple.done fun _ held => held
    match cached with
    | .ok (some parent) =>
      apply Triple.learn fun _ held => (held.2 parent rfl).indexed
      intro indexed
      have remember : Triple agentHandler (SameProvider call) (Holding call parent.2)
          (do let _ ← (rememberRemotePackIndex call parent.2).attempt
              .done (some parent)) (ParentHeld call) EndsClosed EndsClosed := by
        apply Triple.bind fun _ => Holding call parent.2
        · exact holding_rememberAttempt fun _ member => member
        intro _
        exact Triple.done fun config held => ⟨indexed, held⟩
      exact remember.of_pre (fun _ held => (held.2 parent rfl).holding)
    | .ok none =>
      exact fetching.of_pre (fun _ held => held.1)
    | .error error =>
      exact fetching.of_pre (fun _ held => held.1)
  · exact Triple.done fun _ closed => parentHeld_none closed

end Parts

def PlanFrom (files : List ManifestFile) (plan : Plan) : Prop := ∀ file ∈ plan.files, file ∈ files

section Plans

variable {context : PlanContext} {files : List ManifestFile} {plan : Plan}

theorem mem_of_mem_removeManifestFile {removed : PathKey} {file : ManifestFile}
    (member : file ∈ removeManifestFile files removed) : file ∈ files :=
  (List.mem_filter.mp member).1

theorem mem_of_manifestFile {key : PathKey} {file : ManifestFile}
    (found : manifestFile files key = some file) : file ∈ files :=
  List.mem_of_find?_eq_some found

theorem inherited_of_reuse {candidate : Candidate} {node : Option FileNode}
    {inherited : ManifestFile}
    (reuses : context.candidateAction plan candidate node = .reuse inherited) :
    inherited ∈ plan.files := by
  unfold PlanContext.candidateAction at reuses
  split at reuses
  · cases reuses
  · split at reuses
    · split at reuses
      · rename_i found
        split at reuses
        · cases reuses
          exact mem_of_manifestFile found
        · cases reuses
      · cases reuses
    · cases reuses

theorem planFrom_applyAction {candidate : Candidate} {action : PlanContext.CandidateAction}
    (planned : PlanFrom files plan)
    (reused : ∀ inherited, action = .reuse inherited → inherited ∈ files) :
    PlanFrom files (context.applyAction plan candidate action) := by
  have kept : ∀ file ∈ removeManifestFile plan.files (context.logicalOf candidate).key,
      file ∈ files := fun file member => planned file (mem_of_mem_removeManifestFile member)
  cases action with
  | missing => exact kept
  | skip => exact kept
  | capture => exact kept
  | reuse inherited =>
      intro file member
      rcases List.mem_append.mp member with old | new
      · exact kept file old
      · rw [List.mem_singleton.mp new]
        exact reused inherited rfl

theorem planFrom_inheritedPlan (parent : Option Parent) (pending : List AppMutationRecord) :
    PlanFrom (parentFiles parent) (inheritedPlan context parent pending) := by
  have removals : ∀ (keys : List PathKey) (plan : Plan), PlanFrom (parentFiles parent) plan →
      PlanFrom (parentFiles parent) (keys.foldl PlanContext.removeKey plan) := by
    intro keys
    induction keys with
    | nil => exact fun _ planned => planned
    | cons key rest ih =>
        intro plan planned
        exact ih _ fun file member => planned file (mem_of_mem_removeManifestFile member)
  have mutated : ∀ (pending : List AppMutationRecord) (plan : Plan),
      PlanFrom (parentFiles parent) plan →
      PlanFrom (parentFiles parent) (pending.foldl context.applyMutation plan) := by
    intro pending
    induction pending with
    | nil => exact fun _ planned => planned
    | cons mutation rest ih => exact fun plan planned => ih _ (removals _ _ planned)
  exact mutated pending _ fun file member => (List.mem_filter.mp member).1

theorem planCandidates_from {ops : AgentOp → Prop} {replies : Event agentInterface StateError → Prop}
    (passive : ∀ op : AgentOp, op.passive = true → ops op)
    (keeps : ∀ inherited node, ops (.keepInherited inherited node))
    (candidates : List Candidate) (planned : PlanFrom files plan) :
    (planCandidates context candidates plan).Uses ops replies (PlanFrom files) := by
  induction candidates generalizing plan with
  | nil => exact planned
  | cons candidate rest ih =>
      apply (tell_uses (passive _ rfl)).andThen
      intro found
      have other : ∀ action : PlanContext.CandidateAction, (∀ file, action ≠ .reuse file) →
          (planCandidates context rest (context.applyAction plan candidate action)).Uses ops replies
            (PlanFrom files) := by
        intro action differs
        exact ih (planFrom_applyAction planned fun file same => (differs file same).elim)
      split
      · apply Prog.Uses.ite
        · intro _
          apply (ask_uses (passive _ rfl)).andThen
          intro node
          split
          · rename_i inherited reuses
            apply (ask_uses (keeps _ _)).andThen
            intro _
            apply ih
            apply planFrom_applyAction planned
            rintro file same
            cases same
            exact planned inherited (inherited_of_reuse reuses)
          · rename_i differs
            exact other _ differs
        · exact fun _ => other _ (by simp)
      · exact other _ (by simp)

end Plans

def Hashed.Has (inherited : List String) (hashed : Hashed) (hash : String) : Prop :=
  hash ∈ inherited ∨ (∃ entry ∈ hashed.remoteEntries, entry.chunkHash = hash) ∨
    ∃ chunk ∈ hashed.newChunks, chunk.hash = hash

structure Hashed.Covered (inherited : List String) (remote : List RemoteContentEntry)
    (hashed : Hashed) : Prop where
  known : ∀ entry ∈ hashed.remoteEntries, entry ∈ remote.map RemoteContentEntry.entry
  covered : ∀ file ∈ hashed.files, ∀ chunk ∈ file.chunks, hashed.Has inherited chunk.hash

structure Hashed.Extends (hashed later : Hashed) : Prop where
  files : later.files = hashed.files
  remoteEntries : ∀ entry ∈ hashed.remoteEntries, entry ∈ later.remoteEntries
  newChunks : ∀ chunk ∈ hashed.newChunks, chunk ∈ later.newChunks

theorem Hashed.Has.extend {inherited : List String} {hashed later : Hashed} {hash : String}
    (has : hashed.Has inherited hash) (extends_ : hashed.Extends later) :
    later.Has inherited hash := by
  rcases has with old | ⟨entry, member, same⟩ | ⟨chunk, member, same⟩
  · exact Or.inl old
  · exact Or.inr (Or.inl ⟨entry, extends_.remoteEntries entry member, same⟩)
  · exact Or.inr (Or.inr ⟨chunk, extends_.newChunks chunk member, same⟩)

section Hashing

variable {ops : AgentOp → Prop} {replies : Event agentInterface StateError → Prop}
  {inherited : List String} {remote : List RemoteContentEntry}

theorem hashChunks_has (passive : ∀ op : AgentOp, op.passive = true → ops op)
    (rows : ∀ row ∈ remote, row.entry.chunkHash = row.contentHash)
    (chunks : List ChunkRef) (hashed : Hashed) :
    (hashChunks inherited remote chunks hashed).Uses ops replies fun later =>
      hashed.Extends later ∧ (∀ chunk ∈ chunks, later.Has inherited chunk.hash) ∧
      ∀ entry ∈ later.remoteEntries,
        entry ∈ hashed.remoteEntries ∨ entry ∈ remote.map RemoteContentEntry.entry := by
  induction chunks generalizing hashed with
  | nil => exact ⟨⟨rfl, fun _ member => member, fun _ member => member⟩, by simp,
      fun _ member => Or.inl member⟩
  | cons chunk rest ih =>
      unfold hashChunks
      split
      · rename_i inside
        refine (ih hashed).to_post ?_
        rintro later ⟨extends_, has, known⟩
        refine ⟨extends_, fun other member => ?_, known⟩
        rcases List.mem_cons.mp member with rfl | tail
        · exact Or.inl inside
        · exact has other tail
      · split
        · rename_i row found
          have same : row.contentHash = chunk.hash := by simpa using List.find?_some found
          have listed : row ∈ remote := List.mem_of_find?_eq_some found
          refine (ih _).to_post ?_
          rintro later ⟨extends_, has, known⟩
          have grown : ∀ entry ∈ hashed.remoteEntries ++ [row.entry], entry ∈ later.remoteEntries :=
            extends_.remoteEntries
          refine ⟨⟨extends_.files, fun entry member => grown entry (List.mem_append_left _ member),
            extends_.newChunks⟩, fun other member => ?_, fun entry member => ?_⟩
          · rcases List.mem_cons.mp member with rfl | tail
            · exact Or.inr (Or.inl ⟨row.entry, grown _ (by simp), (rows row listed).trans same⟩)
            · exact has other tail
          · rcases known entry member with old | new
            · rcases List.mem_append.mp old with older | this
              · exact Or.inl older
              · rw [List.mem_singleton.mp this]
                exact Or.inr (List.mem_map_of_mem listed)
            · exact Or.inr new
        · apply (ask_uses (passive _ rfl)).andThen
          intro _
          refine (ih _).to_post ?_
          rintro later ⟨extends_, has, known⟩
          have grown : ∀ added ∈ hashed.newChunks ++ [chunk], added ∈ later.newChunks :=
            extends_.newChunks
          refine ⟨⟨extends_.files, extends_.remoteEntries,
            fun added member => grown added (List.mem_append_left _ member)⟩,
            fun other member => ?_, known⟩
          rcases List.mem_cons.mp member with rfl | tail
          · exact Or.inr (Or.inr ⟨other, grown _ (by simp), rfl⟩)
          · exact has other tail

theorem hashFiles_covered {call : BackupCall}
    (passive : ∀ op : AgentOp, op.passive = true → ops op)
    (reads : ∀ path, ops (.sourceMetadata path))
    (rows : ∀ row ∈ remote, row.entry.chunkHash = row.contentHash)
    (jobs : List (Candidate × LogicalPath)) {hashed : Hashed}
    (covered : hashed.Covered inherited remote) :
    (hashFiles call inherited remote jobs hashed).Uses ops replies
      (Hashed.Covered inherited remote) := by
  induction jobs generalizing hashed with
  | nil => exact covered
  | cons job rest ih =>
      apply (ask_uses (passive _ rfl)).andThen
      intro _
      apply (ask_uses (passive _ rfl)).andThen
      intro bytes
      apply (hashChunks_has passive rows _ _).bind
      rintro chunked ⟨extends_, has, known⟩
      apply (ask_uses (reads _)).andThen
      intro live
      apply ih
      refine ⟨fun entry member => ?_, fun file member chunk inside => ?_⟩
      · rcases known entry member with old | new
        · exact covered.known entry old
        · exact new
      · rcases List.mem_append.mp member with old | new
        · rw [extends_.files] at old
          have still := (covered.covered file old chunk inside).extend extends_
          exact still
        · rw [List.mem_singleton.mp new] at inside
          exact has chunk inside

end Hashing

section Committing

variable {call : BackupCall} {parent : Option Parent}

theorem unpublished_of_passive (op : AgentOp) (passive : op.passive = true) :
    op.unpublished = true := by
  cases op <;> first | rfl | cases passive

theorem mem_insertChunks {chunks : List ChunkRef} (known : List ChunkRef) {hash : String}
    (member : (∃ chunk ∈ chunks, chunk.hash = hash) ∨ ∃ chunk ∈ known, chunk.hash = hash) :
    ∃ chunk ∈ chunks.foldl insertChunk known, chunk.hash = hash := by
  induction chunks generalizing known with
  | nil => exact member.resolve_left (by simp)
  | cons first rest ih =>
      apply ih
      by_cases same : first.hash = hash
      · exact Or.inr ⟨first, by simp [insertChunk], same⟩
      · rcases member with ⟨chunk, inside, equal⟩ | ⟨chunk, inside, equal⟩
        · rcases List.mem_cons.mp inside with rfl | tail
          · exact (same equal).elim
          · exact Or.inl ⟨chunk, tail, equal⟩
        · refine Or.inr ⟨chunk, ?_, equal⟩
          have different : chunk.hash ≠ first.hash := by
            rw [equal]
            exact fun other => same other.symm
          simp [insertChunk, inside, different]

theorem packNewChunks_hold (hashed : Hashed) :
    (packNewChunks call hashed).Uses (fun _ => True) FullyFed fun packs =>
      (∀ chunk ∈ hashed.newChunks, ∃ entry ∈ packs.flatMap BuiltPack.entries,
        entry.chunkHash = chunk.hash) ∧ ∀ pack ∈ packs, pack.Named := by
  apply (buildPacks_hold _ _).bind
  intro small holdsSmall
  apply (buildPacks_hold _ _).bind
  intro regular holdsRegular
  have both := holdsSmall.append holdsRegular
  refine ⟨fun chunk member => ?_, both.named⟩
  obtain ⟨kept, inside, same⟩ := mem_insertChunks [] (Or.inl ⟨chunk, member, rfl⟩)
  have packed : kept ∈ (hashed.newChunks.foldl insertChunk []).filter
        (fun chunk => chunk.hash ∈ hashed.smallHashes) ++
      (hashed.newChunks.foldl insertChunk []).filter
        fun chunk => chunk.hash ∉ hashed.smallHashes := by
    by_cases small : kept.hash ∈ hashed.smallHashes
    · exact List.mem_append_left _ (List.mem_filter.mpr ⟨inside, by simpa using small⟩)
    · exact List.mem_append_right _ (List.mem_filter.mpr ⟨inside, by simpa using small⟩)
  obtain ⟨entry, among, equal⟩ := both.holds kept packed
  exact ⟨entry, among, equal.trans same⟩

def indexParts (parent : Option Parent) (hashed : Hashed) (packs : List BuiltPack) :
    List PackIndexEntry :=
  parentIndex parent ++ hashed.remoteEntries ++ packs.flatMap BuiltPack.entries

theorem indexed_bundle {hashed : Hashed} {packs : List BuiltPack} {plan : Plan} {ids : BundleIds}
    {remote : List RemoteContentEntry} (indexed : Indexed (parentFiles parent) (parentIndex parent))
    (planned : PlanFrom (parentFiles parent) plan)
    (covered : hashed.Covered ((parentIndex parent).map PackIndexEntry.chunkHash) remote)
    (held : ∀ chunk ∈ hashed.newChunks, ∃ entry ∈ packs.flatMap BuiltPack.entries,
      entry.chunkHash = chunk.hash) :
    Indexed (bundleManifest call ids parent plan hashed).files
      (bundleIndex parent hashed packs) := by
  have merged : ∀ hash, (∃ entry ∈ indexParts parent hashed packs, entry.chunkHash = hash) →
      ∃ entry ∈ bundleIndex parent hashed packs, entry.chunkHash = hash := by
    rintro hash ⟨entry, member, rfl⟩
    exact exists_mem_mergeIndex member
  intro file member chunk inside
  apply merged
  have source : file ∈ plan.files ++ hashed.files := by
    have sorted : file ∈ sortFiles (plan.files ++ hashed.files) := member
    unfold sortFiles at sorted
    rwa [List.mem_insertionSort] at sorted
  unfold indexParts
  rcases List.mem_append.mp source with old | new
  · obtain ⟨entry, among, same⟩ := indexed file (planned file old) chunk inside
    exact ⟨entry, by simp [among], same⟩
  · rcases covered.covered file new chunk inside with inherited | ⟨entry, among, same⟩ |
      ⟨added, among, same⟩
    · obtain ⟨entry, among, same⟩ := List.mem_map.mp inherited
      exact ⟨entry, by simp [among], same⟩
    · exact ⟨entry, by simp [among], same⟩
    · obtain ⟨entry, packed, equal⟩ := held added among
      exact ⟨entry, List.mem_append_right _ packed, equal.trans same⟩

theorem holding_uploads {known : List PackIndexEntry} (packs : List BuiltPack)
    (named : ∀ pack ∈ packs, pack.Named) :
    Triple agentHandler (SameProvider call) (Holding call known)
      (Prog.forEach packs fun pack => ask (.uploadPack call.storage pack.packId))
      (fun _ => Holding call (known ++ packs.flatMap BuiltPack.entries)) EndsClosed EndsClosed := by
  induction packs generalizing known with
  | nil =>
      apply Triple.done
      simp
  | cons pack rest ih =>
      apply Triple.bind fun _ => Holding call (known ++ pack.entries)
      · apply Triple.perform
        · exact fun _ holding => holding.closed
        · intro config value state holding replied _
          have closed := closed_reply rfl replied holding.closed
          have uploaded := uploaded_reply replied holding.uploaded
          obtain ⟨_, rfl⟩ := replied.of_ok
          refine ⟨closed, fun entry member => ?_⟩
          rcases List.mem_append.mp member with old | new
          · exact uploaded entry old
          · rw [named pack List.mem_cons_self entry new]
            show pack.packId ∈ ((config.state.settle.after
              (.uploadPack call.storage pack.packId)).stores call.storage).packs
            simp [Agent.after, stores_withStore]
        · exact fun config error state holding replied _ => closed_reply rfl replied holding.closed
      · intro _
        have tail := @ih (known ++ pack.entries) fun other member =>
          named other (List.mem_cons_of_mem _ member)
        simpa using tail

theorem holding_publish {known index : List PackIndexEntry} {manifest : BundleManifest}
    (indexed : Indexed manifest.files index)
    (once : (index.map PackIndexEntry.chunkHash).Nodup) (among : ∀ entry ∈ index, entry ∈ known) :
    Triple agentHandler (SameProvider call) (Holding call known)
      (ask (.publishBundle call.storage (manifest, index))) (fun _ => Holding call known) EndsClosed
      EndsClosed := by
  have keeps : ∀ (config : AgentConfig) (reply : Except StateError Unit) (state : Agent),
      Holding call known config →
      Reply agentHandler (.publishBundle call.storage (manifest, index)) config.state reply state →
      Holding call known
        (config.record (.publishBundle call.storage (manifest, index)) reply state) := by
    intro config reply state holding replied
    refine ⟨?_, uploaded_reply replied holding.uploaded⟩
    show StoresClosed state
    rcases replied.state_cases with rfl | rfl
    · exact holding.closed
    · exact storesClosed_publish (storesClosed_settle holding.closed)
        ⟨indexed, holding.uploaded.of_subset among, once⟩
  apply Triple.perform
  · exact fun _ holding => holding.closed
  · exact fun config value state holding replied _ => keeps config _ state holding replied
  · exact fun config error state holding replied _ => (keeps config _ state holding replied).closed

theorem holding_commitBundle {known index : List PackIndexEntry} {manifest : BundleManifest}
    {packs : List BuiltPack} {states : List FileStateRecord} {pending : List AppMutationRecord}
    (indexed : Indexed manifest.files index)
    (once : (index.map PackIndexEntry.chunkHash).Nodup) (named : ∀ pack ∈ packs, pack.Named)
    (among : ∀ entry ∈ index, entry ∈ known ++ packs.flatMap BuiltPack.entries) :
    Triple agentHandler (SameProvider call) (Holding call known)
      (commitBundle call pending manifest index packs states) (fun _ => EndsClosed) EndsClosed
      EndsClosed := by
  have quiet : ∀ {op : AgentOp}, op.unpublished = true →
      Triple agentHandler (SameProvider call)
        (Holding call (known ++ packs.flatMap BuiltPack.entries)) (ask op)
        (fun _ => Holding call (known ++ packs.flatMap BuiltPack.entries)) EndsClosed EndsClosed :=
    holding_ask
  apply Triple.bind fun _ => Holding call known
  · exact holding_ask rfl
  intro _
  apply Triple.bind fun _ => Holding call known
  · exact holding_ask rfl
  intro _
  apply Triple.bind fun _ => Holding call (known ++ packs.flatMap BuiltPack.entries)
  · exact holding_uploads packs named
  intro _
  apply Triple.bind _ (holding_publish indexed once among)
  intro _
  apply Triple.bind _ (quiet rfl)
  intro _
  apply Triple.bind _ (quiet rfl)
  intro _
  apply Triple.bind _ (quiet rfl)
  intro _
  apply Triple.bind _ (quiet rfl)
  intro _
  apply Triple.bind fun _ => Holding call (known ++ packs.flatMap BuiltPack.entries)
  · exact (holding_remember among).weaken (fun _ before => before) (fun _ _ after => after)
      (fun _ after => after.closed) fun _ after => after.closed
  intro _
  apply Triple.bind _ (quiet rfl)
  intro _
  apply Triple.bind fun _ => Holding call (known ++ packs.flatMap BuiltPack.entries)
  · exact (holding_uses (finishBackupEvidence_uses unpublished_of_passive rfl rfl
      fun _ _ => rfl)).weaken (fun _ before => before) (fun _ _ after => after.2)
      (fun _ ended => ended) fun _ ended => ended
  intro _
  apply Triple.bind _ (quiet rfl)
  intro _
  exact Triple.done fun _ holding => holding.closed

theorem holding_knownRemoteContent {known : List PackIndexEntry} :
    Triple agentHandler (SameProvider call) (Holding call known) (knownRemoteContent call)
      (fun remote config => (∀ row ∈ remote, row.entry.chunkHash = row.contentHash) ∧
        Holding call (known ++ remote.map RemoteContentEntry.entry) config) EndsClosed
      EndsClosed := by
  apply Triple.ite
  · intro _
    apply Triple.perform
    · exact fun _ holding => holding.closed
    · intro config rows state holding replied _
      have closed := closed_reply rfl replied holding.closed
      have uploaded := uploaded_reply replied holding.uploaded
      obtain ⟨answered, rfl⟩ := replied.of_ok
      obtain rfl : config.state.remoteContent.filter (fun row => row.storageId = call.storage) =
        rows := Except.ok.inj answered
      refine ⟨fun row member => ?_, closed, fun entry member => ?_⟩
      · exact (holding.closed.remembered row (List.mem_filter.mp member).1).2
      · rcases List.mem_append.mp member with old | new
        · exact uploaded entry old
        · obtain ⟨row, inside, rfl⟩ := List.mem_map.mp new
          obtain ⟨listed, same⟩ := List.mem_filter.mp inside
          have held := (holding.closed.remembered row listed).1
          rw [decide_eq_true_eq] at same
          rw [same] at held
          exact held
    · exact fun config error state holding replied _ => closed_reply rfl replied holding.closed
  · intro _
    exact Triple.done fun config holding => ⟨by simp, holding.closed, by simpa using holding.uploaded⟩

theorem holding_capture {known : List PackIndexEntry} (inherited : List String)
    (changed : List (Candidate × LogicalPath)) :
    Triple agentHandler (SameProvider call) (Holding call known) (capture call inherited changed)
      (fun hashed config => (∃ remote, hashed.Covered inherited remote) ∧
        Holding call (known ++ hashed.remoteEntries) config) EndsClosed EndsClosed := by
  apply Triple.bind fun _ => Holding call known
  · exact holding_ask rfl
  intro _
  apply Triple.bind fun _ => Holding call known
  · exact (holding_uses (createView_uses unpublished_of_passive changed)).to_post (fun _ _ after => after.2)
  intro jobs
  apply Triple.bind fun _ => Holding call known
  · exact holding_ask rfl
  intro _
  apply Triple.bind _ holding_knownRemoteContent
  intro remote
  apply Triple.learn fun _ both => both.1
  intro rows
  have rest : Triple agentHandler (SameProvider call)
      (Holding call (known ++ remote.map RemoteContentEntry.entry))
      (do let handed ← ask (.feedJobs jobs.length)
          hashFiles call inherited remote (jobs.take handed) {})
      (fun hashed config => (∃ remote, hashed.Covered inherited remote) ∧
        Holding call (known ++ hashed.remoteEntries) config) EndsClosed EndsClosed := by
    apply Triple.bind fun _ => Holding call (known ++ remote.map RemoteContentEntry.entry)
    · exact holding_ask rfl
    intro handed
    have start : ({} : Hashed).Covered inherited remote := ⟨by simp, by simp⟩
    have covering : (hashFiles call inherited remote (jobs.take handed) {}).Uses
        (fun op : AgentOp => op.unpublished = true) FullyFed (Hashed.Covered inherited remote) :=
      hashFiles_covered unpublished_of_passive (fun _ => rfl) rows _ start
    refine (holding_uses covering).to_post ?_
    rintro hashed config ⟨covered, holding⟩
    refine ⟨⟨remote, covered⟩, holding.closed, holding.uploaded.of_subset fun entry member => ?_⟩
    rcases List.mem_append.mp member with old | new
    · exact List.mem_append_left _ old
    · exact List.mem_append_right _ (covered.known entry new)
  exact rest.of_pre (fun _ both => both.2)

theorem holding_captureAndCommit {pending : List AppMutationRecord} {ids : BundleIds} {plan : Plan}
    (indexed : Indexed (parentFiles parent) (parentIndex parent))
    (planned : PlanFrom (parentFiles parent) plan) :
    Triple agentHandler (SameProvider call) (Holding call (parentIndex parent))
      (captureAndCommit call pending ids parent plan) (fun _ => EndsClosed) EndsClosed
      EndsClosed := by
  apply Triple.bind _ (holding_capture _ _)
  intro hashed
  apply Triple.learn fun _ both => both.1
  rintro ⟨remote, covered⟩
  have rest : Triple agentHandler (SameProvider call)
      (Holding call (parentIndex parent ++ hashed.remoteEntries))
      (do ask .persistOperation
          let packs ← packNewChunks call hashed
          let manifest := bundleManifest call ids parent plan hashed
          if call.complete ∧ manifest.files = [] then
            .throw (.invalid ("complete application backup for " ++ call.appId.text ++
              " contains no application files; the application is not installed on this instance"))
          else
            commitBundle call pending (embedRestorePlan manifest (restoreModeForBackup call.mode))
              (bundleIndex parent hashed packs) packs hashed.states)
      (fun _ => EndsClosed) EndsClosed EndsClosed := by
    apply Triple.bind _ (holding_ask rfl)
    intro _
    apply Triple.bind _ (holding_uses ((packNewChunks_uses unpublished_of_passive hashed).and
      (packNewChunks_hold hashed)))
    intro packs
    apply Triple.learn fun _ both => both.1.2
    rintro ⟨held, named⟩
    apply Triple.ite
    · exact fun _ => Triple.throw fun _ both => both.2.closed
    · intro _
      have complete : Indexed (bundleManifest call ids parent plan hashed).files
          (bundleIndex parent hashed packs) := indexed_bundle indexed planned covered held
      have commit : Triple agentHandler (SameProvider call)
          (Holding call (parentIndex parent ++ hashed.remoteEntries))
          (commitBundle call pending (embedRestorePlan (bundleManifest call ids parent plan hashed)
            (restoreModeForBackup call.mode)) (bundleIndex parent hashed packs) packs hashed.states)
          (fun _ => EndsClosed) EndsClosed EndsClosed :=
        holding_commitBundle complete (mergeIndex_nodup _) named
          fun entry member => mem_of_mem_mergeIndex member
      exact commit.of_pre (fun _ both => both.2)
  exact rest.of_pre (fun _ both => both.2)

theorem holding_planAndCommit {pending : List AppMutationRecord} (candidates : List Candidate) :
    Triple agentHandler (SameProvider call) (ParentHeld call parent)
      (planAndCommit call pending parent candidates) (fun _ => EndsClosed) EndsClosed
      EndsClosed := by
  apply Triple.learn fun _ held => held.indexed
  intro indexed
  have rest : Triple agentHandler (SameProvider call) (Holding call (parentIndex parent))
      (planAndCommit call pending parent candidates) (fun _ => EndsClosed) EndsClosed
      EndsClosed := by
    apply Triple.bind _ (holding_uses (drawBundleIds_uses unpublished_of_passive))
    intro ids
    apply Triple.learn fun _ both => both.1
    intro _
    refine (show Triple agentHandler (SameProvider call) (Holding call (parentIndex parent)) _
      (fun _ => EndsClosed) EndsClosed EndsClosed from ?_).weaken (fun _ both => both.2)
      (fun _ _ after => after) (fun _ ended => ended) fun _ ended => ended
    apply Triple.bind _ (holding_ask rfl)
    intro states
    apply Triple.bind _ (holding_uses (planCandidates_from unpublished_of_passive
      (fun _ _ => rfl) candidates (planFrom_inheritedPlan parent pending)))
    intro plan
    apply Triple.learn fun _ both => both.1
    intro planned
    apply Triple.bind fun _ => Holding call (parentIndex parent)
    · have reading : (unchangedParent call parent plan).Uses
          (fun op : AgentOp => op.unpublished = true) FullyFed fun _ => True := by
        unfold unchangedParent
        split
        · apply Prog.Uses.ite
          · intro _
            refine Prog.Uses.andThen (tell_uses ?_) fun _ => trivial
            rfl
          · exact fun _ => trivial
        · trivial
      exact (holding_uses reading).weaken (fun _ both => both.2) (fun _ _ after => after.2)
        (fun _ ended => ended) fun _ ended => ended
    intro unchanged
    cases unchanged with
    | some manifest =>
        have ending : (do finishBackupEvidence call.appId pending
                          ask .persistOperation
                          .done manifest : AgentProg BundleManifest).Uses
            (fun op : AgentOp => op.unpublished = true) FullyFed fun _ => True := by
          apply (finishBackupEvidence_uses unpublished_of_passive rfl rfl fun _ _ => rfl).andThen
          intro _
          have persisted : (ask .persistOperation).Uses
              (fun op : AgentOp => op.unpublished = true) FullyFed fun _ => True := ask_uses rfl
          exact persisted.andThen fun _ => trivial
        exact (holding_uses ending).to_post (fun _ _ after => after.2.closed)
    | none => exact holding_captureAndCommit indexed planned
  exact rest.of_pre (fun _ held => held.holding)

theorem runBackup_closed :
    Triple agentHandler (SameProvider call) EndsClosed (runBackup call) (fun _ => EndsClosed)
      EndsClosed EndsClosed := by
  have quiet : ∀ {op : AgentOp}, op.unpublished = true →
      Triple agentHandler (SameProvider call) EndsClosed (ask op) (fun _ => EndsClosed) EndsClosed
        EndsClosed := by
    intro op unpublished
    exact (holding_ask unpublished).weaken
      (fun config closed => (parentHeld_none closed : ParentHeld call none config).holding)
      (fun _ _ holding => holding.closed) (fun _ ended => ended) fun _ ended => ended
  apply Triple.bind _ (quiet rfl)
  intro _
  apply Triple.bind _ (quiet rfl)
  intro dirty
  apply Triple.bind _ (quiet rfl)
  intro pending
  apply Triple.bind _ (quiet rfl)
  intro _
  apply Triple.bind _ holding_loadParent
  intro parent
  have held : ∀ {op : AgentOp}, op.unpublished = true →
      Triple agentHandler (SameProvider call) (ParentHeld call parent) (ask op)
        (fun _ => ParentHeld call parent) EndsClosed EndsClosed := by
    intro op unpublished
    apply Triple.learn fun _ both => both.indexed
    intro indexed
    exact (holding_ask unpublished).weaken (fun _ both => both.holding)
      (fun _ _ holding => ⟨indexed, holding⟩) (fun _ ended => ended) fun _ ended => ended
  have part : ∀ {α : Type} {program : AgentProg α} {post : α → Prop},
      program.Uses (fun op : AgentOp => op.unpublished = true) FullyFed post →
      Triple agentHandler (SameProvider call) (ParentHeld call parent) program
        (fun _ => ParentHeld call parent) EndsClosed EndsClosed := by
    intro α program post uses
    apply Triple.learn fun _ both => both.indexed
    intro indexed
    exact (holding_uses uses).weaken (fun _ both => both.holding)
      (fun _ _ after => ⟨indexed, after.2⟩) (fun _ ended => ended) fun _ ended => ended
  cases upToDate call dirty pending parent with
  | some manifest =>
      apply Triple.bind _ (held rfl)
      intro _
      exact Triple.done fun _ both => both.holding.closed
  | none =>
      apply Triple.bind _ (part (requiresReconciliation_uses unpublished_of_passive))
      intro requires
      apply Triple.bind _ (part (reconcile_uses unpublished_of_passive (fun _ _ _ _ => rfl)
        fun _ => ⟨rfl, rfl⟩))
      intro _
      apply Triple.bind _ (part (gatherCandidates_uses unpublished_of_passive))
      intro candidates
      exact holding_planAndCommit candidates

end Committing

theorem indexClosed_of_storesClosed (closed : StoresClosed agent) : IndexClosed agent := by
  intro storage bundle member
  have this := closed.bundles storage bundle member
  exact ⟨this, fun mode verified target => planMissingPackJobs_ok this.indexed mode verified target⟩

/-- From a closed state, every sequence of runs that find their cached parents
at the provider keeps the committed indexes closed. -/
theorem index_closed_over_backups {start final : Agent} (closed : StoresClosed start)
    (backups : Backups SameProvider start final) : IndexClosed final := by
  apply indexClosed_of_storesClosed
  induction backups with
  | none => exact closed
  | next before run ih =>
      have ended := runBackup_closed ⟨[], _⟩ _ _ ih run
      split at ended
      · exact ended
      · exact ended
      · exact ended

def sameProviderCheck (call : BackupCall) (config : AgentConfig)
    (event : Event agentInterface StateError) (_ : Agent) : Bool :=
  match event with
  | ⟨.feedPlans count, .ok handed⟩ => Nat.beq handed count
  | ⟨.readCachedParent appId bundle, .ok (some parent)⟩ =>
      lookupParent (config.state.stores call.storage).bundles appId bundle = some parent
  | _ => true

theorem sameProviderCheck_sound {call : BackupCall} {config : AgentConfig}
    {event : Event agentInterface StateError} {state : Agent}
    (checked : sameProviderCheck call config event state = true) :
    SameProvider call config event state := by
  obtain ⟨op, reply⟩ := event
  cases op with
  | feedPlans count =>
      cases reply with
      | ok handed =>
          have same : Nat.beq handed count = true := checked
          exact ⟨Nat.eq_of_beq_eq_true same, trivial⟩
      | error error => exact ⟨trivial, trivial⟩
  | readCachedParent appId bundle =>
      match reply with
      | .ok (some parent) =>
          have same : decide (lookupParent (config.state.stores call.storage).bundles appId bundle =
            some parent) = true := checked
          exact ⟨trivial, by simpa using same⟩
      | .ok none => exact ⟨trivial, trivial⟩
      | .error error => exact ⟨trivial, trivial⟩
  | _ => exact ⟨trivial, trivial⟩

def backedUp (call : BackupCall) (agent : Agent) : Agent :=
  ((runBackup call).exec agentHandler [] ⟨[], agent⟩).2.2.state

theorem backups_backedUp
    {allow : BackupCall → AgentConfig → Event agentInterface StateError → Agent → Prop}
    {start agent : Agent} (call : BackupCall)
    (check : AgentConfig → Event agentInterface StateError → Agent → Bool)
    (sound : ∀ config event state, check config event state = true → allow call config event state)
    (before : Backups allow start agent)
    (follows : (runBackup call).follows agentHandler check [] ⟨[], agent⟩ = true) :
    Backups allow start (backedUp call agent) :=
  .next before (follows_runs sound (runBackup call) [] ⟨[], agent⟩ follows)

namespace Sample

def completeCall (storage : String) : BackupCall :=
  { backupCall with mode := .completeApplication, storage := storage }

def twoProviders : Agent := backedUp (completeCall "remote") (backedUp backupCall modifiedAgent)

def oneProvider : Agent := backedUp (completeCall "local") (backedUp backupCall modifiedAgent)

theorem backups_twoProviders : Backups (fun _ _ _ _ => True) modifiedAgent twoProviders :=
  backups_backedUp _ (fun _ _ _ => true) (fun _ _ _ _ => trivial)
    (backups_backedUp _ (fun _ _ _ => true) (fun _ _ _ _ => trivial) .none (follows_true _ _ _ _))
    (follows_true _ _ _ _)

theorem backups_oneProvider : Backups SameProvider modifiedAgent oneProvider :=
  backups_backedUp _ (sameProviderCheck _) (fun _ _ _ checked => sameProviderCheck_sound checked)
    (backups_backedUp _ (sameProviderCheck _)
      (fun _ _ _ checked => sameProviderCheck_sound checked) .none (by decide +kernel))
    (by decide +kernel)

theorem modifiedAgent_closed : StoresClosed modifiedAgent where
  bundles _ _ member := by cases member
  remembered _ member := by cases member

end Sample

/-- The second provider gets an index that names packs of the first. -/
theorem index_names_packs_elsewhere :
    ¬ ∀ final, Backups (fun _ _ _ _ => True) Sample.modifiedAgent final → IndexClosed final := by
  intro always
  have closed := always _ Sample.backups_twoProviders
  have foreign : ∃ bundle ∈ (Sample.twoProviders.stores "remote").bundles,
      ∃ entry ∈ bundle.2.2, entry.packId ∉ (Sample.twoProviders.stores "remote").packs := by
    decide +kernel
  obtain ⟨bundle, member, entry, inside, missing⟩ := foreign
  exact missing ((closed "remote" bundle member).1.uploaded entry inside)

theorem index_closed_two_backups :
    IndexClosed Sample.oneProvider ∧ (Sample.oneProvider.stores "local").bundles.length = 1 :=
  ⟨index_closed_over_backups Sample.modifiedAgent_closed Sample.backups_oneProvider,
    by decide +kernel⟩

end Noland.Backup
