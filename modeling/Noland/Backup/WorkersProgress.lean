import Noland.Backup.Workers

/-!
Workers that leave early can leave a full channel behind, on which the feeder blocks forever while
the coordinator waits to join it. That takes a job for each worker, a full channel and one more
job.
-/

namespace Noland.Backup

open Noland.Core

section Progress

variable {Job Result World : Type} {kind : PoolKind} {work : Job → World → Except StateError Result}

def Pool.CanMove (kind : PoolKind) (work : Job → World → Except StateError Result)
    (pool : Pool Job Result) : Prop :=
  ∃ move, move ≠ .requestCancel ∧ (pool.move kind work move).isSome = true

def Worker.taken : Worker Job Result → Nat
  | .waiting | .receiving => 0
  | _ => 1

/-- While the feeder has not finished, a worker leaves only after it took a job. -/
def Pool.Counted (total : Nat) (pool : Pool Job Result) : Prop :=
  pool.feeder.isFinished = false →
    pool.feeder.held.length + pool.queue.length + (pool.workers.map Worker.taken).sum ≤ total

theorem advances_taken {stopped cancelled flag : Bool} {worker later : Worker Job Result}
    (next : Advances kind work stopped cancelled worker later flag) :
    later.taken ≤ worker.taken := by
  cases next with
  | again => exact Nat.zero_le _
  | _ => exact Nat.le_refl 1

theorem counted_step {total : Nat} {pool later : Pool Job Result} {move : Move World}
    (counted : pool.Counted total) (step : PoolStep kind work pool move later) :
    later.Counted total := by
  intro feeding
  cases step with
  | feedEnd => cases feeding
  | feedCheck job rest position =>
      have before := counted (by rw [position]; rfl)
      rw [position] at before
      dsimp only at feeding ⊢
      split at feeding
      · cases feeding
      · rename_i uncancelled
        rw [if_neg uncancelled]
        exact before
  | feedLoad job rest position =>
      have before := counted (by rw [position]; rfl)
      rw [position] at before
      dsimp only at feeding ⊢
      split at feeding
      · cases feeding
      · rename_i going
        rw [if_neg going]
        exact before
  | feedSend job rest position =>
      have before := counted (by rw [position]; rfl)
      rw [position] at before
      simp only [Feeder.held, List.length_cons, List.length_append, List.length_nil] at before ⊢
      omega
  | lock world before after position =>
      have earlier := counted feeding
      simpa [position, Worker.taken] using earlier
  | receive world before after job rest position waiting =>
      have earlier := counted feeding
      simp only [position, waiting, List.map_append, List.map_cons, List.sum_append, List.sum_cons,
        List.length_cons, Worker.taken] at earlier ⊢
      omega
  | disconnect world before after position empty fed =>
      rw [fed] at feeding
      cases feeding
  | send world before after job result position =>
      have earlier := counted feeding
      simpa [position, Worker.taken] using earlier
  | advance world before after worker moved stopped position next =>
      have earlier := counted feeding
      have fewer := advances_taken next
      simp only [position, List.map_append, List.map_cons, List.sum_append, List.sum_cons]
        at earlier ⊢
      omega
  | _ => exact counted feeding

theorem taken_of_all_left {workers : List (Worker Job Result)}
    (gone : workers.all Worker.isLeft = true) :
    (workers.map Worker.taken).sum = workers.length := by
  induction workers with
  | nil => rfl
  | cons worker rest ih =>
      rw [List.all_cons, Bool.and_eq_true] at gone
      have first : worker.taken = 1 := by
        cases worker <;> first | rfl | cases gone.1
      rw [List.map_cons, List.sum_cons, ih gone.2, first, List.length_cons]
      omega

theorem counted_steps {jobs : List Job} {workers : Nat} {pool : Pool Job Result}
    {allowed : Pool Job Result → Move World → Prop}
    (steps : Steps kind work allowed (startPool jobs workers) pool) :
    pool.Counted jobs.length ∧ pool.Drained := by
  induction steps with
  | refl =>
      refine ⟨fun _ => ?_, fun ended => (ended rfl).elim⟩
      simp [startPool, Feeder.held, Worker.taken]
  | tail _ last ih =>
      obtain ⟨move, _, moved⟩ := last
      exact ⟨counted_step ih.1 (move_step moved), drained_step ih.2 (move_step moved)⟩

theorem feeder_moves {pool : Pool Job Result} (feeding : pool.feeder.isFinished = false)
    (room : pool.queue.length < pool.capacity ∨ ∀ job rest, pool.feeder ≠ .sending job rest) :
    pool.CanMove kind work := by
  refine ⟨.feed, by simp, ?_⟩
  simp only [Pool.move, Pool.moveFeeder]
  cases position : pool.feeder with
  | next jobs => cases jobs <;> rfl
  | checked job rest => rfl
  | sending job rest =>
      have space := room.resolve_right fun never => never job rest position
      dsimp only
      rw [if_pos space]
      rfl
  | finished =>
      rw [position] at feeding
      cases feeding

variable {worker : Worker Job Result}

theorem worker_moves {pool : Pool Job Result} (world : World) (member : worker ∈ pool.workers)
    (moved : ∀ i, (pool.moveWorker kind work world i worker).isSome = true) :
    pool.CanMove kind work := by
  obtain ⟨i, within, found⟩ := List.getElem_of_mem member
  refine ⟨.work i world, by simp, ?_⟩
  simp only [Pool.move, List.getElem?_eq_getElem within, found]
  exact moved i

theorem pending_worker_moves [Inhabited World] {pool : Pool Job Result}
    (crew : 0 < pool.workers.length) (empty : pool.results = []) (member : worker ∈ pool.workers)
    (staying : worker.isLeft = false) : pool.CanMove kind work := by
  have room : pool.results.length < pool.capacity := by
    rw [empty]
    simp only [Pool.capacity, List.length_nil]
    omega
  have receiver : Worker.receiving ∈ pool.workers → pool.CanMove kind work := by
    intro holder
    cases waiting : pool.queue with
    | cons job rest =>
        refine worker_moves default holder fun i => ?_
        simp only [Pool.moveWorker, waiting]
        rfl
    | nil =>
        cases fed : pool.feeder.isFinished with
        | true =>
            refine worker_moves default holder fun i => ?_
            simp only [Pool.moveWorker, waiting, fed, if_true]
            rfl
        | false =>
            refine feeder_moves fed (Or.inl ?_)
            rw [waiting]
            simp only [Pool.capacity, List.length_nil]
            omega
  cases worker with
  | waiting =>
      cases held : pool.workers.any Worker.isReceiving with
      | true =>
          obtain ⟨holder, inside, receiving⟩ := List.any_eq_true.mp held
          cases holder <;> first | exact receiver inside | cases receiving
      | false =>
          refine worker_moves default member fun i => ?_
          simp only [Pool.moveWorker, held, Bool.false_eq_true, if_false]
          rfl
  | receiving => exact receiver member
  | sending job result =>
      refine worker_moves default member fun i => ?_
      simp only [Pool.moveWorker, if_pos room]
      rfl
  | left => cases staying
  | received job =>
      refine worker_moves default member fun i => ?_
      cases kind <;> rfl
  | cleared job =>
      refine worker_moves default member fun i => ?_
      cases kind <;> rfl
  | running job => exact worker_moves default member fun i => rfl
  | ran job result =>
      refine worker_moves default member fun i => ?_
      cases kind <;> rfl
  | finishing job result => exact worker_moves default member fun i => rfl
  | sent failure =>
      refine worker_moves default member fun i => ?_
      cases kind <;> rfl

theorem few_jobs_move [Inhabited World] {jobs : List Job} {workers : Nat} (crew : 0 < workers)
    (few : jobs.length ≤ 3 * workers) {pool : Pool Job Result}
    {allowed : Pool Job Result → Move World → Prop}
    (steps : Steps kind work allowed (startPool jobs workers) pool)
    (running : pool.coordinator ≠ .returned) : pool.CanMove kind work := by
  obtain ⟨counted, drained⟩ := counted_steps steps
  have length : pool.workers.length = workers := by
    rw [workers_length_steps steps]
    exact List.length_replicate
  cases position : pool.coordinator with
  | returned => exact (running position).elim
  | draining =>
      cases arrived : pool.results with
      | cons item rest =>
          refine ⟨.coordinate, by simp, ?_⟩
          simp only [Pool.move, Pool.moveCoordinator, position, arrived]
          rfl
      | nil =>
          cases gone : pool.workers.all Worker.isLeft with
          | true =>
              refine ⟨.coordinate, by simp, ?_⟩
              simp only [Pool.move, Pool.moveCoordinator, position, arrived, gone, if_true]
              rfl
          | false =>
              obtain ⟨worker, member, staying⟩ := List.all_eq_false.mp gone
              exact pending_worker_moves (by omega) arrived member (by simpa using staying)
  | joining =>
      cases fed : pool.feeder.isFinished with
      | true =>
          refine ⟨.coordinate, by simp, ?_⟩
          simp only [Pool.move, Pool.moveCoordinator, position, fed, if_true]
          rfl
      | false =>
          apply feeder_moves fed
          by_contra blocked
          simp only [not_or, not_forall, not_not] at blocked
          obtain ⟨full, job, rest, sending⟩ := blocked
          have count := counted fed
          have gone := (drained (by rw [position]; decide)).2
          rw [taken_of_all_left gone, sending, length] at count
          simp only [Feeder.held, List.length_cons, Pool.capacity] at count full
          omega

def Unrestricted (_ : Pool Job Result) (_ : Move World) : Prop := True

theorem steps_cons {pool later last : Pool Job Result} {move : Move World}
    (moved : pool.move kind work move = some later)
    (rest : Steps kind work Unrestricted later last) : Steps kind work Unrestricted pool last :=
  Relation.ReflTransGen.head ⟨move, trivial, moved⟩ rest

theorem steps_nil {pool : Pool Job Result} : Steps kind work Unrestricted pool pool :=
  Relation.ReflTransGen.refl

theorem move_at {pool : Pool Job Result} {before after : List (Worker Job Result)} (world : World)
    (position : pool.workers = before ++ worker :: after) :
    pool.move kind work (.work before.length world) =
      pool.moveWorker kind work world before.length worker := by
  have here : pool.workers[before.length]? = some worker := by
    rw [position, List.getElem?_append_right (Nat.le_refl _), Nat.sub_self]
    rfl
  simp only [Pool.move, here]

theorem put_at {pool : Pool Job Result} {before after : List (Worker Job Result)}
    (later : Worker Job Result) (position : pool.workers = before ++ worker :: after) :
    pool.put before.length later = { pool with workers := before ++ later :: after } := by
  have set : (before ++ worker :: after).set before.length later = before ++ later :: after := by
    rw [List.set_append_right _ _ (Nat.le_refl _), Nat.sub_self]
    rfl
  rw [Pool.put, position, set]

section At

variable {pool : Pool Job Result} {before after : List (Worker Job Result)}

theorem move_lock (world : World) (position : pool.workers = before ++ .waiting :: after)
    (free : pool.workers.any Worker.isReceiving = false) :
    pool.move kind work (.work before.length world) =
      some { pool with workers := before ++ .receiving :: after } := by
  rw [move_at world position, Pool.moveWorker, if_neg (by rw [free]; simp), put_at _ position]

theorem move_receive (world : World) {job : Job} {rest : List Job}
    (position : pool.workers = before ++ .receiving :: after) (waiting : pool.queue = job :: rest) :
    pool.move kind work (.work before.length world) =
      some { pool with workers := before ++ .received job :: after, queue := rest } := by
  simp only [move_at world position, Pool.moveWorker, waiting, put_at _ position]

theorem move_send (world : World) {job : Job} {result : Except StateError Result}
    (position : pool.workers = before ++ .sending job result :: after)
    (room : pool.results.length < pool.capacity) :
    pool.move kind work (.work before.length world) =
      some { pool with
        workers := before ++ .sent (failed result) :: after
        results := pool.results ++ [(job, result)] } := by
  simp only [move_at world position, Pool.moveWorker, if_pos room, put_at _ position]

theorem move_advance (world : World) {worker later : Worker Job Result} {flag : Bool}
    (position : pool.workers = before ++ worker :: after)
    (next : worker.advance kind work world pool.stopped pool.cancelled = some (later, flag)) :
    pool.move kind work (.work before.length world) =
      some { pool with workers := before ++ later :: after, stopped := flag } := by
  rw [move_at world position]
  cases worker with
  | waiting => cases next
  | receiving => cases next
  | sending job result => cases next
  | left => cases next
  | _ => simp only [Pool.moveWorker, next, put_at _ position]

end At

def filling (busy : List (Worker Job Result)) (idle : Nat) (queue rest : List Job) :
    Pool Job Result :=
  { feeder := .next rest, queue := queue, workers := busy ++ List.replicate idle .waiting }

theorem filling_feed {busy : List (Worker Job Result)} {idle : Nat} {queue rest : List Job}
    {job : Job} (room : queue.length < (busy.length + idle) * 2) :
    Steps kind work Unrestricted (filling busy idle queue (job :: rest))
      (filling busy idle (queue ++ [job]) rest) := by
  have checked : (filling busy idle queue (job :: rest)).move kind work .feed =
      some { filling busy idle queue (job :: rest) with feeder := .checked job rest } := rfl
  have loaded : ({ filling busy idle queue (job :: rest) with feeder := .checked job rest } :
      Pool Job Result).move kind work .feed =
        some { filling busy idle queue (job :: rest) with feeder := .sending job rest } := rfl
  have sent : ({ filling busy idle queue (job :: rest) with feeder := .sending job rest } :
      Pool Job Result).move kind work .feed = some (filling busy idle (queue ++ [job]) rest) := by
    simp only [Pool.move, Pool.moveFeeder, Pool.capacity, filling, List.length_append,
      List.length_replicate, if_pos room]
  exact steps_cons checked (steps_cons loaded (steps_cons sent steps_nil))

theorem filling_take [Inhabited World] {busy : List (Worker Job Result)} {idle : Nat}
    {rest : List Job} {job : Job} (free : busy.any Worker.isReceiving = false) :
    Steps kind work Unrestricted (filling busy (idle + 1) [job] rest)
      (filling (busy ++ [.received job]) idle [] rest) := by
  have position : (filling busy (idle + 1) [job] rest).workers =
      busy ++ .waiting :: List.replicate idle .waiting := by
    rw [filling, List.replicate_succ]
  have unlocked : (filling busy (idle + 1) [job] rest).workers.any Worker.isReceiving = false := by
    rw [position, List.any_append, free, ← List.replicate_succ]
    simp [Worker.isReceiving]
  have locked := @move_lock Job Result World kind work _ _ _ default position unlocked
  have received := @move_receive Job Result World kind work
    { filling busy (idle + 1) [job] rest with
      workers := busy ++ .receiving :: List.replicate idle .waiting } _ _ default job [] rfl rfl
  have same : ({ filling busy (idle + 1) [job] rest with
      workers := busy ++ .received job :: List.replicate idle .waiting, queue := [] } :
        Pool Job Result) = filling (busy ++ [.received job]) idle [] rest := by
    simp only [filling, List.append_assoc, List.singleton_append]
  exact steps_cons locked (steps_cons received (same ▸ steps_nil))

theorem filling_workers [Inhabited World] (taken : List Job) {busy : List (Worker Job Result)}
    {rest : List Job} (free : busy.any Worker.isReceiving = false) :
    Steps kind work Unrestricted (filling busy taken.length [] (taken ++ rest))
      (filling (busy ++ taken.map .received) 0 [] rest) := by
  induction taken generalizing busy with
  | nil => simpa using steps_nil
  | cons job others ih =>
      have fed : Steps kind work Unrestricted
          (filling busy (others.length + 1) [] (job :: (others ++ rest)))
          (filling busy (others.length + 1) [job] (others ++ rest)) :=
        filling_feed (by simp only [List.length_nil]; omega)
      have took : Steps kind work Unrestricted
          (filling busy (others.length + 1) [job] (others ++ rest))
          (filling (busy ++ [.received job]) others.length [] (others ++ rest)) :=
        filling_take free
      have more := @ih (busy ++ [.received job]) (by simpa [Worker.isReceiving] using free)
      rw [List.append_assoc] at more
      exact fed.trans (took.trans more)

theorem filling_queue (waiting : List Job) {busy : List (Worker Job Result)}
    {queue rest : List Job} (room : queue.length + waiting.length ≤ busy.length * 2) :
    Steps kind work Unrestricted (filling busy 0 queue (waiting ++ rest))
      (filling busy 0 (queue ++ waiting) rest) := by
  induction waiting generalizing queue with
  | nil => simpa using steps_nil
  | cons job others ih =>
      simp only [List.length_cons] at room
      have fed : Steps kind work Unrestricted (filling busy 0 queue (job :: (others ++ rest)))
          (filling busy 0 (queue ++ [job]) (others ++ rest)) := filling_feed (by omega)
      have space : (queue ++ [job]).length + others.length ≤ busy.length * 2 := by
        rw [List.length_append, List.length_singleton]
        omega
      have more := ih space
      rw [List.append_assoc] at more
      exact fed.trans more

theorem error_leaves [Inhabited World] {pool : Pool Job Result}
    {before after : List (Worker Job Result)} {job : Job} {error : StateError}
    (position : pool.workers = before ++ .finishing job (.error error) :: after)
    (empty : pool.results = []) (draining : pool.coordinator = .draining) :
    ∃ recorded, Steps kind work Unrestricted pool
      { pool with workers := before ++ .left :: after, stopped := true, firstError := recorded } := by
  have stored := @move_advance Job Result World kind work pool before after default _
    (.sending job (.error error)) true position (by simp [Worker.advance, failed])
  have room : ({ pool with workers := before ++ .sending job (.error error) :: after, stopped := true } :
      Pool Job Result).results.length < (before ++ .sending job (.error error) :: after).length * 2 := by
    simp only [empty, List.length_nil, List.length_append, List.length_cons]
    omega
  have sent := @move_send Job Result World kind work
    { pool with workers := before ++ .sending job (.error error) :: after, stopped := true }
    before after default job (.error error) rfl room
  have collected : ({ pool with
      workers := before ++ .sent true :: after
      stopped := true
      results := pool.results ++ [(job, .error error)] } : Pool Job Result).move kind work .coordinate =
        some { pool with
          workers := before ++ .sent true :: after
          stopped := true
          firstError := if pool.firstError.isNone then some error else pool.firstError } := by
    simp only [Pool.move, Pool.moveCoordinator, draining, empty, List.nil_append, Pool.collect]
  have left := @move_advance Job Result World kind work
    { pool with
      workers := before ++ .sent true :: after
      stopped := true
      firstError := if pool.firstError.isNone then some error else pool.firstError }
    before after default (.sent true) .left true rfl (by cases kind <;> simp [Worker.advance])
  exact ⟨_, steps_cons stored (steps_cons sent (steps_cons collected (steps_cons left steps_nil)))⟩

def leaving (job : Job) (rest queue : List Job) (gone : Nat) (held : List Job) (stopped : Bool)
    (recorded : Option StateError) : Pool Job Result :=
  { feeder := .sending job rest
    queue := queue
    workers := List.replicate gone .left ++ held.map .received
    stopped := stopped
    cancelled := true
    firstError := recorded }

theorem leaving_one [Inhabited World] {job first : Job} {rest queue held : List Job} {gone : Nat}
    {stopped : Bool} {recorded : Option StateError} :
    ∃ flag error, Steps kind work Unrestricted
      (leaving job rest queue gone (first :: held) stopped recorded : Pool Job Result)
      (leaving job rest queue (gone + 1) held flag error) := by
  have after_left : ∀ flag error, ({ (leaving job rest queue gone (first :: held) stopped recorded :
      Pool Job Result) with
        workers := List.replicate gone .left ++ .left :: held.map .received
        stopped := flag
        firstError := error } : Pool Job Result) =
          leaving job rest queue (gone + 1) held flag error := by
    intro flag error
    simp [leaving, List.replicate_succ']
  cases kind with
  | hash =>
      cases stopped with
      | true =>
          have left := @move_advance Job Result World .hash work
            (leaving job rest queue gone (first :: held) true recorded) (List.replicate gone .left)
            (held.map .received) default (.received first) .left true rfl rfl
          refine ⟨true, recorded, steps_cons left ?_⟩
          rw [← after_left true recorded]
          exact steps_nil
      | false =>
          have cleared := @move_advance Job Result World .hash work
            (leaving job rest queue gone (first :: held) false recorded) (List.replicate gone .left)
            (held.map .received) default (.received first) (.cleared first) false rfl rfl
          have refused := @move_advance Job Result World .hash work
            { leaving job rest queue gone (first :: held) false recorded with
              workers := List.replicate gone .left ++ .cleared first :: held.map .received }
            (List.replicate gone .left) (held.map .received) default (.cleared first)
            (.finishing first (.error cancellationError)) false rfl rfl
          obtain ⟨error, last⟩ := @error_leaves Job Result World .hash work _
            { leaving job rest queue gone (first :: held) false recorded with
              workers := List.replicate gone .left ++
                .finishing first (.error cancellationError) :: held.map .received }
            (List.replicate gone .left) (held.map .received) first cancellationError rfl rfl rfl
          refine ⟨true, error, steps_cons cleared (steps_cons refused ?_)⟩
          rw [← after_left true error]
          exact last
  | pack =>
      have refused := @move_advance Job Result World .pack work
        (leaving job rest queue gone (first :: held) stopped recorded) (List.replicate gone .left)
        (held.map .received) default (.received first)
        (.finishing first (.error cancellationError)) stopped rfl rfl
      obtain ⟨error, last⟩ := @error_leaves Job Result World .pack work _
        { leaving job rest queue gone (first :: held) stopped recorded with
          workers := List.replicate gone .left ++
            .finishing first (.error cancellationError) :: held.map .received }
        (List.replicate gone .left) (held.map .received) first cancellationError rfl rfl rfl
      refine ⟨true, error, steps_cons refused ?_⟩
      rw [← after_left true error]
      exact last

theorem leaving_all [Inhabited World] {job : Job} {rest queue : List Job} (held : List Job)
    {gone : Nat} {stopped : Bool} {recorded : Option StateError} :
    ∃ flag error, Steps kind work Unrestricted
      (leaving job rest queue gone held stopped recorded : Pool Job Result)
      (leaving job rest queue (gone + held.length) [] flag error) := by
  induction held generalizing gone stopped recorded with
  | nil => exact ⟨stopped, recorded, steps_nil⟩
  | cons first others ih =>
      obtain ⟨flag, error, one⟩ := @leaving_one Job Result World kind work _ job first rest queue
        others gone stopped recorded
      obtain ⟨last, final, more⟩ := @ih (gone + 1) flag error
      rw [List.length_cons, Nat.add_comm others.length 1, ← Nat.add_assoc]
      exact ⟨last, final, one.trans more⟩

theorem joining_stuck {job : Job} {rest queue : List Job} {workers : Nat} {stopped : Bool}
    {recorded : Option StateError} (full : queue.length = workers * 2) :
    ¬ ({ leaving job rest queue workers [] stopped recorded with coordinator := .joining } :
      Pool Job Result).CanMove kind work := by
  rintro ⟨move, thread, moved⟩
  cases move with
  | requestCancel => exact thread rfl
  | feed =>
      simp [Pool.move, Pool.moveFeeder, leaving, Pool.capacity, full] at moved
  | work i world =>
      simp only [Pool.move, leaving, List.map_nil, List.append_nil] at moved
      cases found : (List.replicate workers (.left : Worker Job Result))[i]? with
      | none =>
          rw [found] at moved
          cases moved
      | some worker =>
          obtain rfl := List.eq_of_mem_replicate (List.mem_of_getElem? found)
          rw [found] at moved
          cases moved
  | coordinate =>
      simp [Pool.move, Pool.moveCoordinator, leaving, Feeder.isFinished] at moved

theorem many_jobs_stuck [Inhabited World] {jobs : List Job} {workers : Nat}
    (many : 3 * workers < jobs.length) :
    ∃ pool : Pool Job Result, Steps kind work Unrestricted (startPool jobs workers) pool ∧
      pool.coordinator ≠ .returned ∧ ¬ pool.CanMove kind work := by
  obtain ⟨taken, waiting, job, rest, rfl, one_each, filled⟩ :
      ∃ taken waiting job rest, jobs = taken ++ (waiting ++ job :: rest) ∧
        taken.length = workers ∧ waiting.length = workers * 2 := by
    refine ⟨jobs.take workers, (jobs.drop workers).take (workers * 2),
      (jobs.drop workers).drop (workers * 2) |>.head (by simp; omega),
      ((jobs.drop workers).drop (workers * 2)).tail, ?_, ?_, ?_⟩
    · rw [List.cons_head_tail, List.take_append_drop, List.take_append_drop]
    · exact List.length_take_of_le (by omega)
    · rw [List.length_take_of_le]
      rw [List.length_drop]
      omega
  have start : (startPool (taken ++ (waiting ++ job :: rest)) workers : Pool Job Result) =
      filling [] taken.length [] (taken ++ (waiting ++ job :: rest)) := by
    rw [one_each]
    rfl
  have busy := @filling_workers Job Result World kind work _ taken [] (waiting ++ job :: rest) rfl
  have full := @filling_queue Job Result World kind work waiting
    ([] ++ taken.map .received) [] (job :: rest) (by simp [one_each, filled])
  have blocked : Steps kind work Unrestricted
      (filling ([] ++ taken.map .received) 0 ([] ++ waiting) (job :: rest) : Pool Job Result)
      (leaving job rest waiting 0 taken false none) := by
    have same : ({ (filling (taken.map .received) 0 waiting (job :: rest) : Pool Job Result) with
        feeder := .sending job rest, cancelled := true }) =
          leaving job rest waiting 0 taken false none := by
      simp [filling, leaving]
    have checked : (filling (taken.map .received) 0 waiting (job :: rest) : Pool Job Result).move
        kind work .feed = some { filling (taken.map .received) 0 waiting (job :: rest) with
          feeder := .checked job rest } := rfl
    have loaded : ({ filling (taken.map .received) 0 waiting (job :: rest) with
        feeder := .checked job rest } : Pool Job Result).move kind work .feed =
          some { filling (taken.map .received) 0 waiting (job :: rest) with
            feeder := .sending job rest } := rfl
    have requested : ({ filling (taken.map .received) 0 waiting (job :: rest) with
        feeder := .sending job rest } : Pool Job Result).move kind work .requestCancel =
          some (leaving job rest waiting 0 taken false none) := by
      rw [← same]
      rfl
    exact steps_cons checked (steps_cons loaded (steps_cons requested steps_nil))
  obtain ⟨flag, error, left⟩ := @leaving_all Job Result World kind work _ job rest waiting taken 0
    false none
  rw [Nat.zero_add, one_each] at left
  have joined : (leaving job rest waiting workers [] flag error : Pool Job Result).move kind work
      .coordinate = some { leaving job rest waiting workers [] flag error with
        coordinator := .joining } := by
    simp [Pool.move, Pool.moveCoordinator, leaving, Worker.isLeft]
  rw [start]
  refine ⟨_, busy.trans (full.trans (blocked.trans (left.trans (steps_cons joined steps_nil)))),
    by simp, joining_stuck filled⟩

/-- The pool that a call starts: `build_packs_parallel` packs one plan, or with one worker, in
order. -/
def startCall (kind : PoolKind) (jobs : List Job) (workers : Nat) : Option (Pool Job Result) :=
  match kind with
  | .hash => some (startPool jobs (max workers 1))
  | .pack =>
      if jobs.length ≤ 1 ∨ workers ≤ 1 then none else some (startPool jobs (min workers jobs.length))

theorem startCall_crew {jobs : List Job} {workers : Nat} {start : Pool Job Result}
    (started : startCall kind jobs workers = some start) :
    ∃ crew, 0 < crew ∧ start = startPool jobs crew ∧
      (jobs.length ≤ 3 * crew ↔ kind = .pack ∧ workers ≤ 1 ∨ jobs.length ≤ 3 * max workers 1) := by
  cases kind with
  | hash =>
      cases started
      refine ⟨max workers 1, by omega, rfl, ?_⟩
      simp
  | pack =>
      unfold startCall at started
      dsimp only at started
      split at started
      · cases started
      · rename_i several
        cases started
        refine ⟨min workers jobs.length, by omega, rfl, ?_⟩
        simp only [true_and]
        omega

/-- In every state of a call before it returns some thread can move, whatever fails and whenever
it is cancelled, exactly if there are at most three jobs for each worker or one worker packs. -/
theorem pool_moves_iff_few_jobs [Inhabited World] (kind : PoolKind)
    (work : Job → World → Except StateError Result) (jobs : List Job) (workers : Nat) :
    (∀ start : Pool Job Result, startCall kind jobs workers = some start →
      ∀ pool, Steps kind work Unrestricted start pool → pool.coordinator ≠ .returned →
        pool.CanMove kind work) ↔
      (kind = .pack ∧ workers ≤ 1) ∨ jobs.length ≤ 3 * max workers 1 := by
  cases started : (startCall kind jobs workers : Option (Pool Job Result)) with
  | none =>
      refine iff_of_true (fun _ impossible => nomatch impossible) ?_
      cases kind with
      | hash => cases started
      | pack =>
          unfold startCall at started
          dsimp only at started
          split at started
          · rename_i few
            rcases few with short | alone
            · exact Or.inr (by omega)
            · exact Or.inl ⟨rfl, alone⟩
          · cases started
  | some start =>
      obtain ⟨crew, some, rfl, bound⟩ := startCall_crew started
      rw [← bound]
      constructor
      · intro moves
        by_contra many
        obtain ⟨pool, steps, running, stuck⟩ := @many_jobs_stuck Job Result World kind work _ jobs
          crew (by omega)
        exact stuck (moves _ rfl pool steps running)
      · intro few start same pool steps running
        cases same
        exact few_jobs_move some few steps running

end Progress

/-- One worker that hashes four files and two that pack seven plans, of which none fails. -/
theorem four_jobs_stuck :
    (∃ start pool : Pool Nat Nat, startCall .hash [1, 2, 3, 4] 1 = some start ∧
      Steps .hash (fun job (_ : Unit) => .ok job) Unrestricted start pool ∧
        pool.coordinator ≠ .returned ∧ ¬ pool.CanMove .hash (fun job (_ : Unit) => .ok job)) ∧
    ∃ start pool : Pool Nat Nat, startCall .pack [1, 2, 3, 4, 5, 6, 7] 2 = some start ∧
      Steps .pack (fun job (_ : Unit) => .ok job) Unrestricted start pool ∧
        pool.coordinator ≠ .returned ∧ ¬ pool.CanMove .pack (fun job (_ : Unit) => .ok job) := by
  constructor
  · obtain ⟨pool, stuck⟩ := @many_jobs_stuck Nat Nat Unit .hash (fun job _ => .ok job) _
      [1, 2, 3, 4] 1 (by decide)
    exact ⟨_, pool, rfl, stuck⟩
  · obtain ⟨pool, stuck⟩ := @many_jobs_stuck Nat Nat Unit .pack (fun job _ => .ok job) _
      [1, 2, 3, 4, 5, 6, 7] 2 (by decide)
    exact ⟨_, pool, rfl, stuck⟩

end Noland.Backup
