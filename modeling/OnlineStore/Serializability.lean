/-
This file proves that updates are serializable, as long as no order loads CustomerInfo while
somebody else has truncated it and not written it yet.

The requests happen in the order in which they are settled. This is shown from the end of a run,
where nothing is left to do: each step back that settles a request puts its turn before those of
the requests that are settled later (`Explains`). What a request draws from the clock, and that it
does not crash, is known from the end, too.
-/

import OnlineStore.Tasks

namespace OnlineStore.Serializability

open CString Cells Prog Interleaving ReaderWriter Concurrency Updates

variable {Thread : Type}

/-! ### One at a time -/

/-- A request of a thread, and the reading of the clock that it sees. The reading is free: it need
not be the one that the thread sees in the run, only one that draws the same id. -/
structure Turn (Thread : Type) where
  thread : Thread
  message : Text
  reading : Nat

/-- Runs requests one at a time. -/
def serveInTurn (rand : Rand) (clock : Nat → Nat) :
    List (Turn Thread) → World Files → Option (World Files)
  | [], world => some world
  | turn :: turns, world =>
    (serveOnDisk rand (clock turn.reading) turn.message world).bind
      (serveInTurn rand clock turns)

/-- All loads read what the last finished write-back of their file has left, and when the threads
have finished the files are those that their requests leave one at a time in some order. -/
structure Serializable [DecidableEq Thread] (rand : Rand) (clock : Nat → Nat) (files : Files)
    (messages : Thread → List Text) (server : Server Thread) : Prop where
  whole : server.shared.tornReads = 0
  inTurn : (∀ thread, server.finished thread = true) → ∃ turns : List (Turn Thread),
    (∀ thread, (turns.filter fun turn => turn.thread = thread).map Turn.message =
      messages thread) ∧
    (serveInTurn rand clock turns ⟨files, [], [], []⟩).map World.store = some server.shared.files

/-! ### What comes after a state -/

/-- What a settled task leaves on the files that it holds, for a reading of the clock that is the
one it has drawn, if it has drawn one. -/
def Task.Leaves (clock : Nat → Nat) (files after : Files) (task : Task) : Prop :=
  ∃ reading final, (∀ drawn, task.drawn = some drawn → clock reading = drawn) ∧
    effect (clock reading) task.program files = some final ∧
    ∀ file ∈ task.stage.held, after file = final file

/-- The files after all that the settled tasks still do, and the turns of the requests that are
not settled yet, which lead on to the last files. -/
structure Explains [DecidableEq Thread] (rand : Rand) (clock : Nat → Nat) (last files : Files)
    (tasks : Thread → Task) (after : Files) (turns : List (Turn Thread)) : Prop where
  leaves : ∀ thread, (tasks thread).stage.settled = true →
    (tasks thread).Leaves clock files after
  free : ∀ file, (∀ thread, (tasks thread).stage.settled = true →
    file ∉ (tasks thread).stage.held) → after file = files file
  left : ∀ thread, (turns.filter fun turn => turn.thread = thread).map Turn.message =
    (tasks thread).left
  inTurn : ∀ world : World Files, world.store = after →
    (serveInTurn rand clock turns world).map World.store = some last

def Explained [DecidableEq Thread] (rand : Rand) (clock : Nat → Nat) (last : Files)
    (server : Server Thread) (tasks : Thread → Task) : Prop :=
  ∃ after turns, Explains rand clock last server.shared.files tasks after turns

section Back

variable {rand : Rand} {clock : Nat → Nat} {server : Server Thread} {tasks : Thread → Task}
variable {thread : Thread} {last after : Files} {turns : List (Turn Thread)}

/-- What a task leaves depends on the files that it holds. -/
theorem Task.Leaves.of_held {task : Task} {files files' : Files}
    (finishes : Finishes task.stage task.program) (settled : task.stage.settled = true)
    (same : ∀ file ∈ task.stage.held, files file = files' file)
    (leaves : task.Leaves clock files' after) : task.Leaves clock files after := by
  obtain ⟨reading, final, draws, ends, agree⟩ := leaves
  obtain ⟨final', ends', agree'⟩ := effect_local finishes settled same ends
  exact ⟨reading, final', draws, ends', fun file held =>
    (agree file held).trans (agree' file held).symm⟩

theorem Task.Sound.exists_reading {task : Task} {files : Files}
    (sound : task.Sound rand clock files) :
    ∃ reading, ∀ drawn, task.drawn = some drawn → clock reading = drawn := by
  cases drawn : task.drawn with
  | none => exact ⟨0, nofun⟩
  | some now =>
    obtain ⟨reading, same⟩ := sound.read now drawn
    exact ⟨reading, fun other own => same.trans (Option.some.inj own)⟩

variable [DecidableEq Thread]

/-- At the end nothing is left to do. -/
theorem Tracks.explains_of_finished (tracks : Tracks rand clock server tasks)
    (finished : ∀ thread, server.finished thread = true) :
    Explains rand clock server.shared.files server.shared.files tasks server.shared.files [] := by
  have done : ∀ thread, (tasks thread).program = .pure () ∧ (tasks thread).rest = [] := by
    intro thread
    have ended := finished thread
    rw [Threads.finished, tracks.programs] at ended
    cases running : (tasks thread).program with
    | call op rest =>
      rw [running] at ended
      cases ended
    | pure result =>
      rw [running] at ended
      cases waits : (tasks thread).rest with
      | nil => exact ⟨rfl, rfl⟩
      | cons message messages =>
        rw [waits] at ended
        cases ended
  have idle : ∀ thread, (tasks thread).stage = .idle := fun thread =>
    (tracks.sound thread).idle (by rw [(done thread).1]; rfl)
  refine ⟨fun thread _ => ?_, fun _ _ => rfl, fun thread => ?_, ?_⟩
  · obtain ⟨reading, draws⟩ := (tracks.sound thread).exists_reading
    refine ⟨reading, server.shared.files, draws, ?_, fun _ _ => rfl⟩
    rw [(done thread).1]
    rfl
  · rw [Task.left, idle, (done thread).2]
    rfl
  · exact fun _ same => congrArg some same

section Call

variable {op : DiskOp} {answer : op.Ret} {rest : op.Ret → DiskProg Unit}
variable {process : Process Thread}

/-- A call changes only files that its thread holds. -/
theorem Tracks.files_of_not_held (tracks : Tracks rand clock server tasks)
    (running : (tasks thread).program = .call op rest)
    (called : server.shared.exec clock thread (.disk op) = some (answer, process))
    {file : DbFile} (outside : file ∉ (tasks thread).stage.held) :
    process.files file = server.shared.files file := by
  have finishes : Finishes (tasks thread).stage (.call op rest) :=
    running ▸ (tracks.sound thread).finishes
  rw [exec_files called]
  exact changed_of_not_held finishes.1 outside

/-- The other tasks leave the same before and after a call. -/
theorem Explains.leaves_other {task : Task} (tracks : Tracks rand clock server tasks)
    (running : (tasks thread).program = .call op rest)
    (called : server.shared.exec clock thread (.disk op) = some (answer, process))
    (explains : Explains rand clock last process.files (Function.update tasks thread task) after
      turns) {other : Thread} (different : other ≠ thread)
    (settled : (tasks other).stage.settled = true) :
    (tasks other).Leaves clock server.shared.files after := by
  have leaves := explains.leaves other
  rw [Function.update_of_ne different] at leaves
  refine (leaves settled).of_held (tracks.sound other).finishes settled fun file held => ?_
  exact (tracks.files_of_not_held running called fun own =>
    different (tracks.locks.apart held own)).symm

/-- A file that the call has released stays as it is now. -/
theorem Explains.after_released {task : Task} (tracks : Tracks rand clock server tasks)
    (explains : Explains rand clock last process.files (Function.update tasks thread task) after
      turns) {file : DbFile} (held : file ∈ (tasks thread).stage.held)
    (released : file ∉ task.stage.held) : after file = process.files file := by
  refine explains.free file fun other _ => ?_
  by_cases own : other = thread
  · rw [own, Function.update_self]
    exact released
  · rw [Function.update_of_ne own]
    exact fun also => own (tracks.locks.apart also held)

/-- Back over a call of a settled task. -/
theorem Explains.call_settled (tracks : Tracks rand clock server tasks)
    (running : (tasks thread).program = .call op rest)
    (called : server.shared.exec clock thread (.disk op) = some (answer, process))
    (settled : (tasks thread).stage.settled = true)
    (explains : Explains rand clock last process.files (Function.update tasks thread
      ((tasks thread).resume op answer (rest answer))) after turns) :
    Explains rand clock last server.shared.files tasks after turns := by
  have finishes : Finishes (tasks thread).stage (.call op rest) :=
    running ▸ (tracks.sound thread).finishes
  have follows := finishes.2 answer trivial
  have sound := (tracks.sound thread).resume running called
  have still := Task.resume_settled settled answer (rest answer)
  have inside : ∀ file ∈ ((tasks thread).resume op answer (rest answer)).stage.held,
      file ∈ (tasks thread).stage.held := fun file held =>
    Stage.held_of_next settled finishes.1 answer (Task.resume_held follows ▸ held)
  refine ⟨fun other settled' => ?_, fun file nobody => ?_, fun other => ?_, explains.inTurn⟩
  · by_cases own : other = thread
    · have leaves := explains.leaves thread
      rw [Function.update_self] at leaves
      obtain ⟨reading, final, draws, ends, agree⟩ := leaves still
      obtain ⟨drawn, before⟩ := (tracks.sound thread).drawn_of_draws running draws
      have answered := diskAnswer_of_exec finishes.1 called (fun _ _ => rfl) drawn
      rw [own]
      refine ⟨reading, final, before, ?_, fun file held => ?_⟩
      · rw [running, effect, answered, ← exec_files called]
        exact ends
      · by_cases kept : file ∈ ((tasks thread).resume op answer (rest answer)).stage.held
        · exact agree file kept
        · rw [effect_frame sound.finishes still ends fun may => kept may.1]
          exact explains.after_released tracks held kept
    · exact explains.leaves_other tracks running called own settled'
  · rw [← tracks.files_of_not_held running called (nobody thread settled)]
    refine explains.free file fun other settled' => ?_
    by_cases own : other = thread
    · rw [own, Function.update_self]
      exact fun held => nobody thread settled (inside file held)
    · rw [Function.update_of_ne own] at settled' ⊢
      exact nobody other settled'
  · rw [explains.left other]
    by_cases own : other = thread
    · rw [own, Function.update_self, Task.left, Task.left, if_pos still, if_pos settled]
      rfl
    · rw [Function.update_of_ne own]

/-- Back over a call that does not settle its task. -/
theorem Explains.call_unsettled (tracks : Tracks rand clock server tasks)
    (running : (tasks thread).program = .call op rest)
    (called : server.shared.exec clock thread (.disk op) = some (answer, process))
    (unsettled : ((tasks thread).resume op answer (rest answer)).stage.settled = false)
    (explains : Explains rand clock last process.files (Function.update tasks thread
      ((tasks thread).resume op answer (rest answer))) after turns) :
    Explains rand clock last server.shared.files tasks after turns := by
  have before := Task.unsettled_of_resume unsettled
  have unchanged : process.files = server.shared.files := by
    rw [exec_files called]
    exact (tracks.sound thread).changed_of_unsettled running unsettled _
  refine ⟨fun other settled' => ?_, fun file nobody => ?_, fun other => ?_, explains.inTurn⟩
  · have own : other ≠ thread := by
      rintro rfl
      cases before.symm.trans settled'
    exact explains.leaves_other tracks running called own settled'
  · rw [← unchanged]
    refine explains.free file fun other settled' => ?_
    by_cases own : other = thread
    · rw [own, Function.update_self] at settled'
      cases unsettled.symm.trans settled'
    · rw [Function.update_of_ne own] at settled' ⊢
      exact nobody other settled'
  · rw [explains.left other]
    by_cases own : other = thread
    · rw [own, Function.update_self, Task.left, Task.left, unsettled, before]
      rfl
    · rw [Function.update_of_ne own]

/-! ### The call that settles a request -/

/-- The files before the turn of a request: those that it holds as they are now, the others as
they are after it. -/
def rewind (held : List DbFile) (files after : Files) : Files := fun file =>
  if file ∈ held then files file else after file

theorem rewind_held {held : List DbFile} {files : Files} {file : DbFile} (own : file ∈ held) :
    rewind held files after file = files file := if_pos own

theorem rewind_other {held : List DbFile} {files : Files} {file : DbFile} (other : file ∉ held) :
    rewind held files after file = after file := if_neg other

theorem Task.held_of_resume_settled {task : Task} {program : DiskProg Unit}
    (finishes : Finishes (diskUpdates.next task.stage op answer) program)
    (before : task.stage.settled = false)
    (settled : (task.resume op answer program).stage.settled = true) {file : DbFile}
    (held : file ∈ (task.resume op answer program).stage.held) : file ∈ task.stage.held := by
  rcases Task.resume_cases finishes with ⟨-, same, -⟩ | ⟨-, same⟩
  · rw [same] at held
    cases held
  · rw [same] at settled held
    exact Stage.held_of_settled_next answer before settled held

/-- The files that a request reads to settle are as they are before its turn. CustomerInfo, when
it reads it without the semaphore, has been written already or is not truncated any more. -/
theorem Explains.rewind_read {task : Task} (tracks : Tracks rand clock server tasks)
    (admitted : loadsWhole server thread = true)
    (running : (tasks thread).program = .call op rest)
    (called : server.shared.exec clock thread (.disk op) = some (answer, process))
    (inside : ∀ file ∈ task.stage.held, file ∈ (tasks thread).stage.held)
    (explains : Explains rand clock last process.files (Function.update tasks thread task) after
      turns) {file : DbFile} (reads : op = .read file) :
    rewind (tasks thread).stage.held server.shared.files after file =
      server.shared.files file := by
  subst reads
  by_cases held : file ∈ (tasks thread).stage.held
  · exact rewind_held held
  have finishes : Finishes (tasks thread).stage (.call (.read file) rest) :=
    running ▸ (tracks.sound thread).finishes
  obtain ⟨-, rfl⟩ := finishes.1.2.resolve_left held
  have uncut := tracks.reads_whole admitted running
  rw [rewind_other held, ← tracks.files_of_not_held running called held]
  by_cases writer : ∃ other, (tasks other).stage.settled = true ∧
      .CustomerInfo ∈ (tasks other).stage.held
  · obtain ⟨other, settled, also⟩ := writer
    have different : other ≠ thread := by
      rintro rfl
      exact held also
    have leaves := explains.leaves other
    rw [Function.update_of_ne different] at leaves
    obtain ⟨reading, final, -, ends, agree⟩ := leaves settled
    rw [agree .CustomerInfo also]
    refine effect_frame (tracks.sound other).finishes settled ends ?_
    rintro ⟨-, cut | ⟨-, different⟩⟩
    · cases uncut.symm.trans ((tracks.contents.truncating .CustomerInfo).mpr ⟨other, cut⟩)
    · exact different rfl
  · refine explains.free .CustomerInfo fun other settled also => ?_
    by_cases own : other = thread
    · rw [own, Function.update_self] at also
      exact held (inside _ also)
    · rw [Function.update_of_ne own] at settled also
      exact writer ⟨other, settled, also⟩

/-- The request that a call settles leads, in its turn, to what comes after. -/
theorem Explains.effect_settled (tracks : Tracks rand clock server tasks)
    (admitted : loadsWhole server thread = true)
    (running : (tasks thread).program = .call op rest)
    (called : server.shared.exec clock thread (.disk op) = some (answer, process))
    (before : (tasks thread).stage.settled = false)
    (settled : ((tasks thread).resume op answer (rest answer)).stage.settled = true)
    (explains : Explains rand clock last process.files (Function.update tasks thread
      ((tasks thread).resume op answer (rest answer))) after turns) :
    ∃ reading, effect (clock reading) (onDisk (executeTaskOnServer rand (tasks thread).message))
      (rewind (tasks thread).stage.held server.shared.files after) = some after := by
  have finishes : Finishes (tasks thread).stage (.call op rest) :=
    running ▸ (tracks.sound thread).finishes
  have sound := (tracks.sound thread).resume running called
  have inside : ∀ file ∈ ((tasks thread).resume op answer (rest answer)).stage.held,
      file ∈ (tasks thread).stage.held := fun file =>
    Task.held_of_resume_settled (finishes.2 answer trivial) before settled
  have leaves := explains.leaves thread
  rw [Function.update_self] at leaves
  obtain ⟨reading, final, draws, ends, agree⟩ := leaves settled
  obtain ⟨drawn, draws⟩ := (tracks.sound thread).drawn_of_draws running draws
  have answered := diskAnswer_of_exec finishes.1 called
    (fun _ reads => explains.rewind_read tracks admitted running called inside reads) drawn
  have same : ∀ file ∈ (tasks thread).stage.held,
      changed (rewind (tasks thread).stage.held server.shared.files after) op file =
        process.files file := fun file held =>
    (changed_congr op (rewind_held held)).trans (congrFun (exec_files called) file).symm
  obtain ⟨final', ends', agree'⟩ := effect_local sound.finishes settled
    (fun file held => same file (inside file held)) ends
  have leadsOn : final' = after := by
    funext file
    by_cases kept : file ∈ ((tasks thread).resume op answer (rest answer)).stage.held
    · exact (agree' file kept).trans (agree file kept).symm
    · rw [effect_frame sound.finishes settled ends' fun may => kept may.1]
      by_cases held : file ∈ (tasks thread).stage.held
      · rw [same file held, explains.after_released tracks held kept]
      · rw [changed_of_not_held finishes.1 held, rewind_other held]
  refine ⟨reading, ?_⟩
  rw [(tracks.sound thread).foretells before _ _ draws fun file held => rewind_held held,
    running, effect, answered]
  exact ends'.trans (congrArg some leadsOn)

/-- Back over a call that settles its task: the turn of its request comes before the others. -/
theorem Explains.call_settles (tracks : Tracks rand clock server tasks)
    (admitted : loadsWhole server thread = true)
    (running : (tasks thread).program = .call op rest)
    (called : server.shared.exec clock thread (.disk op) = some (answer, process))
    (before : (tasks thread).stage.settled = false)
    (settled : ((tasks thread).resume op answer (rest answer)).stage.settled = true)
    (explains : Explains rand clock last process.files (Function.update tasks thread
      ((tasks thread).resume op answer (rest answer))) after turns) :
    ∃ after' turns', Explains rand clock last server.shared.files tasks after' turns' := by
  have finishes : Finishes (tasks thread).stage (.call op rest) :=
    running ▸ (tracks.sound thread).finishes
  have follows := finishes.2 answer trivial
  obtain ⟨reading, leadsOn⟩ :=
    explains.effect_settled tracks admitted running called before settled
  refine ⟨rewind (tasks thread).stage.held server.shared.files after,
    ⟨thread, (tasks thread).message, reading⟩ :: turns, fun other settled' => ?_,
    fun file nobody => ?_, fun other => ?_, fun world same => ?_⟩
  · have own : other ≠ thread := by
      rintro rfl
      cases before.symm.trans settled'
    obtain ⟨reading, final, draws, ends, agree⟩ :=
      explains.leaves_other tracks running called own settled'
    refine ⟨reading, final, draws, ends, fun file held => ?_⟩
    rw [rewind_other fun also => own (tracks.locks.apart held also)]
    exact agree file held
  · by_cases held : file ∈ (tasks thread).stage.held
    · exact rewind_held held
    · rw [rewind_other held, ← tracks.files_of_not_held running called held]
      refine explains.free file fun other settled' => ?_
      by_cases own : other = thread
      · rw [own, Function.update_self]
        exact fun also => held (Task.held_of_resume_settled follows before settled also)
      · rw [Function.update_of_ne own] at settled' ⊢
        exact nobody other settled'
  · have left := explains.left other
    by_cases own : other = thread
    · rw [own, Function.update_self, Task.left, if_pos settled] at left
      rw [own, List.filter_cons_of_pos (by simp), List.map_cons, left, Task.left, before]
      rfl
    · rw [Function.update_of_ne own] at left
      rw [List.filter_cons_of_neg (by simpa using Ne.symm own), left]
  · have served := serveOnDisk_store rand (clock reading) (tasks thread).message world
    rw [same, leadsOn] at served
    obtain ⟨world', served, same'⟩ := Option.map_eq_some_iff.mp served
    rw [serveInTurn, served, Option.bind_some]
    exact explains.inTurn world' same'

end Call

/-- Back over the receipt of a message. -/
theorem Explains.receive (tracks : Tracks rand clock server tasks) {message : Text}
    {messages : List Text} (idle : (tasks thread).program = .pure ())
    (waits : (tasks thread).rest = message :: messages)
    (explains : Explains rand clock last server.shared.files (Function.update tasks thread
      (.receive rand message messages)) after turns) :
    ∃ turns', Explains rand clock last server.shared.files tasks after turns' := by
  have stage : (tasks thread).stage = .idle := (tracks.sound thread).idle (by rw [idle]; rfl)
  have leaves : ∀ other, (tasks other).stage.settled = true →
      (tasks other).Leaves clock server.shared.files after := by
    intro other settled
    by_cases own : other = thread
    · obtain ⟨reading, draws⟩ := (tracks.sound thread).exists_reading
      rw [own]
      refine ⟨reading, server.shared.files, draws, ?_, fun file held => ?_⟩
      · rw [idle]
        rfl
      · rw [stage] at held
        cases held
    · have leaves := explains.leaves other
      rw [Function.update_of_ne own] at leaves
      exact leaves settled
  have free : ∀ file, (∀ other, (tasks other).stage.settled = true →
      file ∉ (tasks other).stage.held) → after file = server.shared.files file := by
    intro file nobody
    refine explains.free file fun other settled => ?_
    by_cases own : other = thread
    · rw [own, Function.update_self, (Task.receive_stage rand message messages).1]
      exact List.not_mem_nil
    · rw [Function.update_of_ne own] at settled ⊢
      exact nobody other settled
  have left : (tasks thread).left = message :: messages := by
    rw [Task.left, stage, waits]
    rfl
  cases program : onDisk (executeTaskOnServer rand message) with
  | call op rest =>
    refine ⟨turns, leaves, free, fun other => ?_, explains.inTurn⟩
    rw [explains.left other]
    by_cases own : other = thread
    · rw [own, Function.update_self, left, Task.receive, program]
      rfl
    · rw [Function.update_of_ne own]
  | pure result =>
    refine ⟨⟨thread, message, 0⟩ :: turns, leaves, free, fun other => ?_, fun world same => ?_⟩
    · have later := explains.left other
      by_cases own : other = thread
      · rw [own, Function.update_self, Task.receive, program] at later
        rw [own, left, List.filter_cons_of_pos (by simp), List.map_cons, later]
        rfl
      · rw [Function.update_of_ne own] at later
        rw [List.filter_cons_of_neg (by simpa using Ne.symm own), later]
    · have served := serveOnDisk_store rand (clock 0) message world
      rw [program, same] at served
      obtain ⟨world', served, same'⟩ := Option.map_eq_some_iff.mp served
      rw [serveInTurn, served, Option.bind_some]
      exact explains.inTurn world' same'

end Back

/-! ### Runs -/

section Runs

variable [DecidableEq Thread] {rand : Rand} {clock : Nat → Nat} {server : Server Thread}
variable {files : Files} {messages : Thread → List Text}

/-- One step, and the step back. -/
theorem Tracks.step (last : Files) {tasks : Thread → Task} {thread : Thread}
    {next : Server Thread} (tracks : Tracks rand clock server tasks)
    (admitted : loadsWhole server thread = true)
    (steps : (machine clock).step server thread = some next) :
    ∃ tasks', Tracks rand clock next tasks' ∧
      (Explained rand clock last next tasks' → Explained rand clock last server tasks) := by
  rcases tracks.step_cases steps with ⟨message, messages, idle, waits, rfl⟩ |
    ⟨op, rest, answer, process, running, called, rfl⟩
  · refine ⟨_, tracks.receive idle waits, ?_⟩
    rintro ⟨after, turns, explains⟩
    exact ⟨after, Explains.receive tracks idle waits explains⟩
  · refine ⟨_, tracks.call admitted running called, ?_⟩
    rintro ⟨after, turns, explains⟩
    cases settled : (tasks thread).stage.settled with
    | true => exact ⟨after, turns, explains.call_settled tracks running called settled⟩
    | false =>
      cases settles : ((tasks thread).resume op answer (rest answer)).stage.settled with
      | true => exact explains.call_settles tracks admitted running called settled settles
      | false => exact ⟨after, turns, explains.call_unsettled tracks running called settles⟩

/-- Updates are serializable as long as nobody loads CustomerInfo while it is truncated. -/
theorem serializable_of_loadsWhole
    (updates : ∀ thread, ∀ message ∈ messages thread, isUpdate message = true)
    (reached : (machine clock).Reaches (fun server thread => loadsWhole server thread = true)
      (start rand files messages) server) :
    Serializable rand clock files messages server := by
  have starts : Tracks rand clock (start rand files messages) fun thread =>
      .ready (messages thread) := tracks_start updates
  have keeps (last : Files) : ∀ (server : Server Thread) tasks thread next,
      loadsWhole server thread = true → (machine clock).step server thread = some next →
      Tracks rand clock server tasks →
      ∃ tasks', Tracks rand clock next tasks' ∧
        (Explained rand clock last next tasks' → Explained rand clock last server tasks) :=
    fun _ _ _ _ admitted steps tracks => tracks.step last admitted steps
  obtain ⟨tasks, tracks⟩ := Machine.exists_ghost_of_reaches
    (fun server tasks thread next admitted steps tracks =>
      (keeps files server tasks thread next admitted steps tracks).imp fun _ both => both.1)
    starts reached
  refine ⟨tracks.contents.whole, fun finished => ?_⟩
  have ends : ∀ tasks, Tracks rand clock server tasks →
      Explained rand clock server.shared.files server tasks :=
    fun _ tracks => ⟨_, _, tracks.explains_of_finished finished⟩
  obtain ⟨after, turns, explains⟩ :=
    Machine.back_of_reaches (keeps server.shared.files) ends starts reached
  refine ⟨turns, explains.left, explains.inTurn _ ?_⟩
  funext file
  exact (explains.free file fun _ _ => List.not_mem_nil).symm

/-- An order of a buyer, and an edit of the same one. -/
def orderAndEdit : Bool → List Text
  | false => ["[COMPLETE_ORDER],1000,2000,1,500,0,".toList]
  | true => ["[EDIT_INFO],[BUYER],1000,[NUMBER],5551234,".toList]

/-- The first lines of the shipped files. -/
def firstLines (file : DbFile) : Text :=
  ((shippedLines file).headD "").toList

/-- The order waits with its load of CustomerInfo until the edit has written it. -/
theorem serializable_of_loadsWhole_orderAndEdit :
    ∃ server, (machine fun _ => 0).runs (fun server thread => loadsWhole server thread = true)
        (List.replicate 5 true ++ List.replicate 5 false ++ [true] ++ List.replicate 17 false ++
          List.replicate 2 true) (start (fun _ => 0) firstLines orderAndEdit) = some server ∧
      (∀ thread, server.finished thread = true) ∧
      Serializable (fun _ => 0) (fun _ => 0) firstLines orderAndEdit server := by
  have ran : ((machine fun _ => 0).runs (fun server thread => loadsWhole server thread = true)
      (List.replicate 5 true ++ List.replicate 5 false ++ [true] ++ List.replicate 17 false ++
        List.replicate 2 true) (start (fun _ => 0) firstLines orderAndEdit)).map (fun server =>
          (server.finished false, server.finished true)) = some (true, true) := by
    decide +kernel
  obtain ⟨server, ran, same⟩ := Option.map_eq_some_iff.mp ran
  refine ⟨server, ran, Bool.forall_bool.mpr (Prod.mk.inj same), ?_⟩
  exact serializable_of_loadsWhole (by decide) (Machine.reaches_of_runs ran)

/-- The order loads CustomerInfo after the edit has truncated it. -/
theorem orderAndEdit_torn :
    ¬∀ server, (machine fun _ => 0).Reaches (fun _ _ => True)
        (start (fun _ => 0) shippedFile orderAndEdit) server →
      Serializable (fun _ => 0) (fun _ => 0) shippedFile orderAndEdit server := by
  intro serializable
  have ran : ((machine fun _ => 0).runs (fun _ _ => True)
      (List.replicate 5 true ++ List.replicate 6 false)
      (start (fun _ => 0) shippedFile orderAndEdit)).map (fun server =>
        server.shared.tornReads) = some 1 := by
    decide +kernel
  obtain ⟨server, ran, torn⟩ := Option.map_eq_some_iff.mp ran
  have whole := (serializable server (Machine.reaches_of_runs ran)).whole
  rw [torn] at whole
  cases whole

end Runs

end OnlineStore.Serializability
