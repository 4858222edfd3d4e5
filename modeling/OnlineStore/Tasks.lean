/-
This file says what the threads are doing while all of them handle requests that change tables:
how far each is with its request, and what it has left to do for it.

`Tracks` ties this to the server. It is kept by every step, as long as no order loads CustomerInfo
while somebody else has truncated it and not written it yet (`Tracks.call`, `Tracks.receive`). Then
every load reads what the last finished write-back has left, and what a request that is not settled
yet will do, on all files that agree on those that it holds, is what it has left to do
(`Foretells`).
-/

import OnlineStore.Concurrency
import OnlineStore.Updates

namespace OnlineStore.Serializability

open CString Cells Prog Interleaving ReaderWriter Concurrency Updates

variable {Thread : Type}

/-! ### What the threads are doing -/

/-- What a thread is doing: how far its request is, what it has drawn from the clock for it, the
message of the request, what it has left to do for it, and the messages after it. -/
structure Task where
  stage : Stage
  drawn : Option Nat
  message : Text
  program : DiskProg Unit
  rest : List Text

namespace Task

/-- Before the first message. -/
def ready (messages : List Text) : Task :=
  ⟨.idle, none, [], .pure (), messages⟩

/-- Takes the next message. -/
def receive (rand : Rand) (message : Text) (messages : List Text) : Task :=
  let program := onDisk (executeTaskOnServer rand message)
  ⟨if program.returned then .idle else .start, none, message, program, messages⟩

/-- Goes on after a call. -/
def resume (task : Task) (op : DiskOp) (answer : op.Ret) (program : DiskProg Unit) : Task :=
  { task with
    stage := if program.returned then .idle else diskUpdates.next task.stage op answer
    drawn := (drawnBy op answer).or task.drawn
    program := program }

/-- The messages of the requests that are not settled yet. -/
def left (task : Task) : List Text :=
  if task.stage.settled then task.rest else task.message :: task.rest

/-- On files that agree with those that it holds, the whole request does what it has left to do. -/
def Foretells (rand : Rand) (files : Files) (task : Task) : Prop :=
  ∀ now files', (∀ drawn, task.drawn = some drawn → now = drawn) →
    (∀ file ∈ task.stage.held, files' file = files file) →
    effect now (onDisk (executeTaskOnServer rand task.message)) files' =
      effect now task.program files'

/-- A task as the protocol wants it. -/
structure Sound (rand : Rand) (clock : Nat → Nat) (files : Files) (task : Task) : Prop where
  finishes : Finishes task.stage task.program
  idle : task.program.returned = true → task.stage = .idle
  updates : ∀ message ∈ task.rest, isUpdate message = true
  undrawn : task.stage.drawn = false → task.drawn = none
  read : ∀ now, task.drawn = some now → ∃ reading, clock reading = now
  settles : ∀ file, task.stage.truncated = some file →
    task.stage.settled = true ∧ file ∈ task.stage.held
  foretells : task.stage.settled = false → task.Foretells rand files

end Task

/-- What can be read of the shared values while some threads have truncated a file. -/
structure Contents (process : Process Thread) (truncated : Thread → Option DbFile) : Prop where
  truncating : ∀ file, process.truncated file = true ↔ ∃ thread, truncated thread = some file
  saved : ∀ file, process.truncated file = false → process.files file = process.saved file
  whole : process.tornReads = 0

/-- The threads of a server are about these tasks. -/
structure Tracks (rand : Rand) (clock : Nat → Nat) (server : Server Thread)
    (tasks : Thread → Task) : Prop where
  programs : ∀ thread, server.program thread =
    (onThread (tasks thread).program >>= fun _ => threadTask rand (tasks thread).rest)
  sound : ∀ thread, (tasks thread).Sound rand clock server.shared.files
  locks : Exclusive (fun file => server.shared.semaphores (.wrt file))
    fun thread => (tasks thread).stage.held
  contents : Contents server.shared fun thread => (tasks thread).stage.truncated

/-! ### One call -/

section Call

variable [DecidableEq Thread]
variable {clock : Nat → Nat} {thread : Thread} {process next : Process Thread} {stage : Stage}

/-- Where a thread is at the locks is recorded apart from the files. -/
theorem recorded_files (thread : Thread) (process : Process Thread) (op : SysOp) (answer : op.Ret) :
    ((process.record thread op answer).startReads thread op).files = process.files ∧
      ((process.record thread op answer).startReads thread op).truncated = process.truncated ∧
      ((process.record thread op answer).startReads thread op).saved = process.saved ∧
      ((process.record thread op answer).startReads thread op).tornReads = process.tornReads ∧
      ((process.record thread op answer).startReads thread op).semaphores = process.semaphores := by
  unfold Process.startReads Process.record
  split <;> split <;> exact ⟨rfl, rfl, rfl, rfl, rfl⟩

/-- A call on something else than a file leaves the files and their records alone. -/
theorem exec_sys {op : SysOp} {answer : op.Ret}
    (called : process.exec clock thread (.disk (.sys op)) = some (answer, next)) :
    next.files = process.files ∧ next.truncated = process.truncated ∧
      next.saved = process.saved ∧ next.tornReads = process.tornReads := by
  obtain ⟨⟨answer, middle⟩, executed, same⟩ := Option.map_eq_some_iff.mp called
  obtain ⟨rfl, rfl⟩ := Prod.mk.inj same
  obtain ⟨files, truncated, saved, torn, -⟩ := recorded_files thread middle op answer
  rw [files, truncated, saved, torn]
  cases op with
  | semWait semaphore =>
    rw [Process.sysExec] at executed
    split at executed
    · cases executed
    · cases executed
      exact ⟨rfl, rfl, rfl, rfl⟩
  | crash => cases executed
  | spin => cases executed
  | _ =>
    cases executed
    exact ⟨rfl, rfl, rfl, rfl⟩

theorem exec_files {op : DiskOp} {answer : op.Ret}
    (called : process.exec clock thread (.disk op) = some (answer, next)) :
    next.files = changed process.files op := by
  cases op with
  | sys op => exact (exec_sys called).1
  | _ =>
    cases called
    rfl

/-- A request gets the same answer when it runs alone, on files that agree with what it reads. -/
theorem diskAnswer_of_exec {op : DiskOp} {answer : op.Ret} {now : Nat} {files : Files}
    (allowed : diskUpdates.allows stage op)
    (called : process.exec clock thread (.disk op) = some (answer, next))
    (same : ∀ file, op = .read file → files file = process.files file)
    (draws : ∀ drawn, drawnBy op answer = some drawn → now = drawn) :
    diskAnswer now files op = some answer := by
  cases op with
  | sys op => cases op with
    | count file change => exact absurd allowed.2 id
    | counter file => exact absurd allowed.2 id
    | time => exact congrArg some (draws answer rfl)
    | crash => exact answer.elim
    | spin => exact answer.elim
    | _ => rfl
  | read file =>
    cases called
    rw [diskAnswer, same file rfl]
  | truncate file => rfl
  | write file text => rfl

/-- A number that a request draws is a reading of the clock. -/
theorem clock_of_drawnBy {op : DiskOp} {answer : op.Ret} {now : Nat}
    (called : process.exec clock thread (.disk op) = some (answer, next))
    (drawn : drawnBy op answer = some now) : ∃ reading, clock reading = now := by
  cases op with
  | sys op => cases op with
    | time =>
      cases called
      exact ⟨_, Option.some.inj drawn⟩
    | _ => cases drawn
  | _ => cases drawn

/-- The semaphores for writing go with what the tasks hold. -/
theorem exclusive_exec {op : DiskOp} {answer : op.Ret} {held : Thread → List DbFile}
    (locks : Exclusive (fun file => process.semaphores (.wrt file)) held)
    (here : held thread = stage.held) (allowed : diskUpdates.allows stage op)
    (called : process.exec clock thread (.disk op) = some (answer, next)) :
    Exclusive (fun file => next.semaphores (.wrt file))
      (Function.update held thread (diskUpdates.next stage op answer).held) := by
  have kept (semaphores : next.semaphores = process.semaphores)
      (same : (diskUpdates.next stage op answer).held = stage.held) :
      Exclusive (fun file => next.semaphores (.wrt file))
        (Function.update held thread (diskUpdates.next stage op answer).held) := by
    rw [semaphores, same, ← here, Function.update_eq_self]
    exact locks
  have set (file : DbFile) (value : Nat) :
      (fun other => (process.setSemaphore (.wrt file) value).semaphores (.wrt other)) =
        Function.update (fun other => process.semaphores (.wrt other)) file value := by
    refine Function.update_comp_eq_of_injective process.semaphores ?_ file value
    exact fun _ _ same => Semaphore.wrt.inj same
  cases op with
  | sys op =>
    obtain ⟨⟨answer, middle⟩, executed, same⟩ := Option.map_eq_some_iff.mp called
    obtain ⟨rfl, rfl⟩ := Prod.mk.inj same
    have recorded := (recorded_files thread middle op answer).2.2.2.2
    cases op with
    | semWait semaphore => cases semaphore with
      | wrt file =>
        rw [Process.sysExec] at executed
        split at executed
        · cases executed
        · rename_i free
          cases executed
          show Exclusive _ (Function.update held thread (file :: stage.held))
          rw [recorded, set, ← here]
          exact locks.wait free thread
      | mutex file => exact absurd allowed.2 id
    | semPost semaphore => cases semaphore with
      | wrt file =>
        cases executed
        show Exclusive _ (Function.update held thread
          (stage.held.filter fun other => other ≠ file))
        rw [recorded, set, ← here]
        exact locks.post (here ▸ allowed.2)
      | mutex file => exact absurd allowed.2 id
    | crash => exact answer.elim
    | spin => exact answer.elim
    | _ =>
      cases executed
      exact kept recorded rfl
  | read file =>
    cases called
    exact kept rfl (stage.read_held file)
  | _ =>
    cases called
    exact kept rfl rfl

/-- A thread that has truncated another file, before and after. -/
theorem exists_update_of_ne {truncated : Thread → Option DbFile} {cut : Option DbFile}
    {file : DbFile} (before : truncated thread ≠ some file) (after : cut ≠ some file) :
    (∃ other, Function.update truncated thread cut other = some file) ↔
      ∃ other, truncated other = some file := by
  rw [Function.exists_update_iff truncated fun _ cut => cut = some file]
  constructor
  · rintro (same | ⟨other, -, same⟩)
    · exact absurd same after
    · exact ⟨other, same⟩
  · rintro ⟨other, same⟩
    refine .inr ⟨other, ?_, same⟩
    rintro rfl
    exact before same

/-- The records about the files go with what the tasks have truncated. -/
theorem Contents.exec {op : DiskOp} {answer : op.Ret} {truncated : Thread → Option DbFile}
    (contents : Contents process truncated) (here : truncated thread = stage.truncated)
    (allowed : diskUpdates.allows stage op)
    (called : process.exec clock thread (.disk op) = some (answer, next))
    (apart : ∀ other file, truncated other = some file → file ∈ stage.held → other = thread)
    (reads : ∀ file, op = .read file → process.truncated file = false) :
    Contents next (Function.update truncated thread
      (diskUpdates.next stage op answer).truncated) := by
  have unchanged (whole : stage.truncated = none) (same : next.truncated = process.truncated)
      (kept : (diskUpdates.next stage op answer).truncated = stage.truncated) (file : DbFile) :
      next.truncated file = true ↔ ∃ other, Function.update truncated thread
        (diskUpdates.next stage op answer).truncated other = some file := by
    rw [same, kept, ← here, Function.update_eq_self]
    exact contents.truncating file
  cases op with
  | sys op =>
    obtain ⟨files, cut, saved, torn⟩ := exec_sys called
    refine ⟨unchanged allowed.1 cut (stage.sysNext_truncated op), ?_, torn.trans contents.whole⟩
    rw [files, cut, saved]
    exact contents.saved
  | read file =>
    cases called
    refine ⟨unchanged allowed.1 rfl (stage.read_truncated file), contents.saved, ?_⟩
    show process.tornReads + (if process.files file = process.saved file then 0 else 1) = 0
    rw [contents.whole, if_pos (contents.saved file (reads file rfl))]
  | truncate file =>
    cases called
    refine ⟨fun other => ?_, fun other => ?_, contents.whole⟩
    · show Function.update process.truncated file true other = true ↔
        ∃ thread', Function.update truncated thread (some file) thread' = some other
      by_cases own : other = file
      · rw [own, Function.update_self]
        exact iff_of_true rfl ⟨thread, Function.update_self ..⟩
      · rw [Function.update_of_ne own, contents.truncating]
        refine (exists_update_of_ne ?_ fun same => own (Option.some.inj same).symm).symm
        rw [here, allowed.1]
        exact nofun
    · show Function.update process.truncated file true other = false →
        Function.update process.files file [] other = process.saved other
      by_cases own : other = file
      · rw [own, Function.update_self]
        exact nofun
      · rw [Function.update_of_ne own, Function.update_of_ne own]
        exact contents.saved other
  | write file text =>
    cases called
    refine ⟨fun other => ?_, fun other => ?_, contents.whole⟩
    · show Function.update process.truncated file false other = true ↔
        ∃ thread', Function.update truncated thread none thread' = some other
      by_cases own : other = file
      · rw [own, Function.update_self]
        refine iff_of_false nofun ?_
        rintro ⟨thread', cut⟩
        by_cases same : thread' = thread
        · rw [same, Function.update_self] at cut
          cases cut
        · rw [Function.update_of_ne same] at cut
          exact same (apart thread' file cut allowed.2)
      · rw [Function.update_of_ne own, contents.truncating]
        refine (exists_update_of_ne ?_ (Option.some_ne_none other).symm).symm
        rw [here, allowed.1]
        exact fun same => own (Option.some.inj same).symm
    · show Function.update process.truncated file false other = false →
        Function.update process.files file text other =
          Function.update process.saved file text other
      by_cases own : other = file
      · rw [own, Function.update_self, Function.update_self, Function.update_self]
        exact fun _ => rfl
      · rw [Function.update_of_ne own, Function.update_of_ne own, Function.update_of_ne own]
        exact contents.saved other

end Call

/-! ### A task goes on -/

section Resume

variable [DecidableEq Thread]
variable {rand : Rand} {clock : Nat → Nat} {thread : Thread} {process next : Process Thread}
variable {task : Task} {op : DiskOp} {answer : op.Ret} {rest : op.Ret → DiskProg Unit}
variable {program : DiskProg Unit}

/-- A task that is through becomes idle. -/
theorem Task.resume_cases
    (finishes : Finishes (diskUpdates.next task.stage op answer) program) :
    (program = .pure () ∧ (task.resume op answer program).stage = .idle ∧
      (diskUpdates.next task.stage op answer).Done) ∨
    (program.returned = false ∧
      (task.resume op answer program).stage = diskUpdates.next task.stage op answer) := by
  cases program with
  | pure result => exact .inl ⟨rfl, rfl, finishes⟩
  | call op' rest => exact .inr ⟨rfl, rfl⟩

theorem Task.resume_held (finishes : Finishes (diskUpdates.next task.stage op answer) program) :
    (task.resume op answer program).stage.held = (diskUpdates.next task.stage op answer).held := by
  rcases Task.resume_cases finishes with ⟨-, same, done⟩ | ⟨-, same⟩
  · rw [same, done.1]
    rfl
  · rw [same]

theorem Task.resume_truncated
    (finishes : Finishes (diskUpdates.next task.stage op answer) program) :
    (task.resume op answer program).stage.truncated =
      (diskUpdates.next task.stage op answer).truncated := by
  rcases Task.resume_cases finishes with ⟨-, same, done⟩ | ⟨-, same⟩
  · rw [same, done.2]
    rfl
  · rw [same]

/-- A task that is not settled after a call goes on. -/
theorem Task.resume_unsettled
    (finishes : Finishes (diskUpdates.next task.stage op answer) program)
    (unsettled : (task.resume op answer program).stage.settled = false) :
    (task.resume op answer program).stage = diskUpdates.next task.stage op answer ∧
      (diskUpdates.next task.stage op answer).settled = false := by
  rcases Task.resume_cases finishes with ⟨-, same, -⟩ | ⟨-, same⟩
  · rw [same] at unsettled
    cases unsettled
  · exact ⟨same, same ▸ unsettled⟩

/-- A number that has been drawn is drawn before or by the call. -/
theorem Task.Sound.drawn_of_draws {files : Files} (sound : task.Sound rand clock files)
    (running : task.program = .call op rest) {now : Nat}
    (draws : ∀ drawn, (task.resume op answer (rest answer)).drawn = some drawn → now = drawn) :
    (∀ drawn, drawnBy op answer = some drawn → now = drawn) ∧
      ∀ drawn, task.drawn = some drawn → now = drawn := by
  refine ⟨fun drawn own => draws drawn ?_, fun drawn before => draws drawn ?_⟩
  · show (drawnBy op answer).or task.drawn = some drawn
    rw [own, Option.some_or]
  · show (drawnBy op answer).or task.drawn = some drawn
    rw [before]
    cases own : drawnBy op answer with
    | none => rfl
    | some now' =>
      have allowed := (running ▸ sound.finishes : Finishes task.stage (.call op rest)).1
      cases op with
      | sys op => cases op with
        | time => cases before.symm.trans (sound.undrawn allowed.2)
        | _ => cases own
      | _ => cases own

/-- A call that does not settle a task changes no file. -/
theorem Task.Sound.changed_of_unsettled {files : Files} (sound : task.Sound rand clock files)
    (running : task.program = .call op rest)
    (unsettled : (task.resume op answer (rest answer)).stage.settled = false) (files' : Files) :
    changed files' op = files' := by
  have finishes : Finishes task.stage (.call op rest) := running ▸ sound.finishes
  refine Updates.changed_of_unsettled finishes.1 (fun own => ?_) answer
    (Task.resume_unsettled (finishes.2 answer trivial) unsettled).2
  obtain ⟨file, own⟩ := Option.ne_none_iff_exists'.mp own
  exact (sound.settles file own).1

theorem Task.resume_settled (settled : task.stage.settled = true) (answer : op.Ret)
    (program : DiskProg Unit) : (task.resume op answer program).stage.settled = true := by
  show (if program.returned then Stage.idle
    else diskUpdates.next task.stage op answer).settled = true
  split_ifs
  · rfl
  · exact Stage.settled_next settled answer

/-- Nor was the task settled before. -/
theorem Task.unsettled_of_resume
    (unsettled : (task.resume op answer program).stage.settled = false) :
    task.stage.settled = false :=
  Bool.eq_false_iff.mpr fun settled =>
    Bool.eq_false_iff.mp unsettled (Task.resume_settled settled answer program)

/-- What a task foretells after a call that has not settled it. -/
theorem Task.Sound.foretells_resume (sound : task.Sound rand clock process.files)
    (running : task.program = .call op rest)
    (called : process.exec clock thread (.disk op) = some (answer, next))
    (unsettled : (task.resume op answer (rest answer)).stage.settled = false) :
    (task.resume op answer (rest answer)).Foretells rand next.files := by
  have finishes : Finishes task.stage (.call op rest) := running ▸ sound.finishes
  have unchanged := sound.changed_of_unsettled running unsettled
  have before := Task.unsettled_of_resume unsettled
  obtain ⟨same, unsettled⟩ := Task.resume_unsettled (finishes.2 answer trivial) unsettled
  intro now files' draws agree
  obtain ⟨own, draws⟩ := sound.drawn_of_draws running draws
  have agrees : ∀ file ∈ task.stage.held, files' file = process.files file := by
    intro file held
    rw [agree file (same ▸ Stage.held_next_of_unsettled answer unsettled held), exec_files called,
      unchanged]
  have reads : ∀ file, op = .read file → files' file = process.files file := by
    rintro file rfl
    exact agrees file (Stage.held_of_unsettled_read unsettled)
  have answered := diskAnswer_of_exec finishes.1 called reads own
  calc effect now (onDisk (executeTaskOnServer rand task.message)) files'
      = effect now task.program files' := sound.foretells before now files' draws agrees
    _ = effect now (rest answer) files' := by rw [running, effect, answered, unchanged]; rfl

theorem Task.Sound.resume (sound : task.Sound rand clock process.files)
    (running : task.program = .call op rest)
    (called : process.exec clock thread (.disk op) = some (answer, next)) :
    (task.resume op answer (rest answer)).Sound rand clock next.files := by
  have finishes : Finishes task.stage (.call op rest) := running ▸ sound.finishes
  have follows := finishes.2 answer trivial
  refine ⟨?_, ?_, sound.updates, ?_, ?_, ?_, sound.foretells_resume running called⟩
  · rcases Task.resume_cases follows with ⟨returned, same, -⟩ | ⟨-, same⟩
    · rw [same]
      show Finishes .idle (rest answer)
      rw [returned]
      exact ⟨rfl, rfl⟩
    · rw [same]
      exact follows
  · intro returned
    exact if_pos returned
  · intro undrawn
    rcases Task.resume_cases follows with ⟨-, same, -⟩ | ⟨-, same⟩
    · rw [same] at undrawn
      cases undrawn
    · rw [same] at undrawn
      obtain ⟨before, own⟩ := Stage.undrawn_of_next undrawn
      show (drawnBy op answer).or task.drawn = none
      rw [own, sound.undrawn before]
      rfl
  · intro now drawn
    rcases Option.or_eq_some_iff.mp drawn with own | ⟨-, before⟩
    · exact clock_of_drawnBy called own
    · exact sound.read now before
  · intro file own
    rcases Task.resume_cases follows with ⟨-, same, -⟩ | ⟨-, same⟩
    · rw [same] at own
      cases own
    · rw [same] at own ⊢
      exact Stage.settled_of_truncated finishes.1 answer own

/-- A task does not notice changes of files that it does not hold. -/
theorem Task.Sound.of_held {files files' : Files} (sound : task.Sound rand clock files)
    (same : ∀ file ∈ task.stage.held, files' file = files file) :
    task.Sound rand clock files' where
  finishes := sound.finishes
  idle := sound.idle
  updates := sound.updates
  undrawn := sound.undrawn
  read := sound.read
  settles := sound.settles
  foretells unsettled now files'' draws agree :=
    sound.foretells unsettled now files'' draws fun file held =>
      (agree file held).trans (same file held)

/-- The next message. -/
theorem Task.Sound.receive {files : Files} {message : Text} {messages : List Text}
    (updates : ∀ other ∈ message :: messages, isUpdate other = true) :
    (Task.receive rand message messages).Sound rand clock files := by
  have finishes := finishes_executeTaskOnServer rand (updates message List.mem_cons_self)
  have later : ∀ other ∈ messages, isUpdate other = true :=
    fun other member => updates other (List.mem_cons_of_mem _ member)
  cases program : onDisk (executeTaskOnServer rand message) with
  | pure result =>
    have same : Task.receive rand message messages =
        ⟨.idle, none, message, .pure (), messages⟩ := by
      rw [Task.receive, program]
      rfl
    rw [same]
    exact ⟨⟨rfl, rfl⟩, fun _ => rfl, later, fun _ => rfl, nofun, nofun, nofun⟩
  | call op rest =>
    have same : Task.receive rand message messages =
        ⟨.start, none, message, .call op rest, messages⟩ := by
      rw [Task.receive, program]
      rfl
    rw [same]
    refine ⟨program ▸ finishes, nofun, later, fun _ => rfl, nofun, nofun, ?_⟩
    intro _ now files' _ _
    rw [program]

end Resume

/-! ### One step of a server -/

/-- The thread is not about to load CustomerInfo while it is truncated. -/
def loadsWhole (server : Server Thread) (thread : Thread) : Bool :=
  match server.program thread with
  | .call (.disk (.read .CustomerInfo)) _ => !server.shared.truncated .CustomerInfo
  | _ => true

section Steps

variable {rand : Rand} {clock : Nat → Nat} {server : Server Thread} {tasks : Thread → Task}
variable {thread : Thread}

theorem tracks_start {files : Files} {messages : Thread → List Text}
    (updates : ∀ thread, ∀ message ∈ messages thread, isUpdate message = true) :
    Tracks rand clock (start rand files messages) fun thread => .ready (messages thread) where
  programs _ := rfl
  sound thread := ⟨⟨rfl, rfl⟩, fun _ => rfl, updates thread, nofun, nofun, nofun, nofun⟩
  locks := exclusive_unused
  contents :=
    { truncating := fun _ => iff_of_false nofun nofun
      saved := fun _ _ => rfl
      whole := rfl }

theorem Tracks.program_call (tracks : Tracks rand clock server tasks) {op : DiskOp}
    {rest : op.Ret → DiskProg Unit} (running : (tasks thread).program = .call op rest) :
    server.program thread = .call (.disk op) fun answer =>
      onThread (rest answer) >>= fun _ => threadTask rand (tasks thread).rest := by
  rw [tracks.programs, running]
  rfl

/-- A file that is read has not been truncated. -/
theorem Tracks.reads_whole (tracks : Tracks rand clock server tasks)
    (admitted : loadsWhole server thread = true) {file : DbFile}
    {rest : (DiskOp.read file).Ret → DiskProg Unit}
    (running : (tasks thread).program = .call (.read file) rest) :
    server.shared.truncated file = false := by
  have finishes : Finishes (tasks thread).stage (.call (.read file) rest) :=
    running ▸ (tracks.sound thread).finishes
  obtain ⟨⟨uncut, held | ⟨-, rfl⟩⟩, -⟩ := finishes
  · refine Bool.eq_false_iff.mpr fun cut => ?_
    obtain ⟨other, cut⟩ := (tracks.contents.truncating file).mp cut
    obtain rfl := tracks.locks.apart ((tracks.sound other).settles file cut).2 held
    cases uncut.symm.trans cut
  · rw [loadsWhole, tracks.program_call running] at admitted
    exact Bool.eq_false_of_not_eq_true' admitted

variable [DecidableEq Thread]

theorem update_held (tasks : Thread → Task) (thread : Thread) (task : Task) :
    (fun other => (Function.update tasks thread task other).stage.held) =
      Function.update (fun other => (tasks other).stage.held) thread task.stage.held :=
  funext (Function.apply_update (fun _ (task : Task) => task.stage.held) tasks thread task)

theorem update_truncated (tasks : Thread → Task) (thread : Thread) (task : Task) :
    (fun other => (Function.update tasks thread task other).stage.truncated) =
      Function.update (fun other => (tasks other).stage.truncated) thread task.stage.truncated :=
  funext (Function.apply_update (fun _ (task : Task) => task.stage.truncated) tasks thread task)

/-- What the threads are about after a call. -/
theorem Tracks.call (tracks : Tracks rand clock server tasks) {op : DiskOp} {answer : op.Ret}
    {rest : op.Ret → DiskProg Unit} {process : Process Thread}
    (admitted : loadsWhole server thread = true)
    (running : (tasks thread).program = .call op rest)
    (called : server.shared.exec clock thread (.disk op) = some (answer, process)) :
    Tracks rand clock
      ⟨process, Function.update server.program thread
        (onThread (rest answer) >>= fun _ => threadTask rand (tasks thread).rest)⟩
      (Function.update tasks thread ((tasks thread).resume op answer (rest answer))) := by
  have finishes : Finishes (tasks thread).stage (.call op rest) :=
    running ▸ (tracks.sound thread).finishes
  have follows := finishes.2 answer trivial
  have apart : ∀ other ≠ thread, ∀ file ∈ (tasks other).stage.held,
      file ∉ (tasks thread).stage.held := fun other different file held own =>
    different (tracks.locks.apart held own)
  refine ⟨fun other => ?_, fun other => ?_, ?_, ?_⟩
  · show Function.update server.program thread _ other = _
    by_cases own : other = thread
    · rw [own, Function.update_self, Function.update_self]
      rfl
    · rw [Function.update_of_ne own, Function.update_of_ne own]
      exact tracks.programs other
  · by_cases own : other = thread
    · rw [own, Function.update_self]
      exact (tracks.sound thread).resume running called
    · rw [Function.update_of_ne own]
      refine (tracks.sound other).of_held fun file held => ?_
      show process.files file = server.shared.files file
      rw [exec_files called]
      exact changed_of_not_held finishes.1 (apart other own file held)
  · have locks := exclusive_exec tracks.locks rfl finishes.1 called
    rw [← Task.resume_held follows] at locks
    rw [update_held]
    exact locks
  · have contents := tracks.contents.exec rfl finishes.1 called
      (fun other file cut held =>
        tracks.locks.apart ((tracks.sound other).settles file cut).2 held)
      (by rintro file rfl; exact tracks.reads_whole admitted running)
    rw [← Task.resume_truncated follows] at contents
    rw [update_truncated]
    exact contents

theorem Task.receive_stage (rand : Rand) (message : Text) (messages : List Text) :
    (Task.receive rand message messages).stage.held = [] ∧
      (Task.receive rand message messages).stage.truncated = none := by
  rw [Task.receive]
  split_ifs <;> exact ⟨rfl, rfl⟩

/-- What the threads are about after one has received a message. -/
theorem Tracks.receive (tracks : Tracks rand clock server tasks) {message : Text}
    {messages : List Text} (idle : (tasks thread).program = .pure ())
    (waits : (tasks thread).rest = message :: messages) :
    Tracks rand clock
      ⟨{ server.shared with received := Function.update server.shared.received thread message },
        Function.update server.program thread
          (onThread (onDisk (executeTaskOnServer rand message)) >>= fun _ =>
            threadTask rand messages)⟩
      (Function.update tasks thread (.receive rand message messages)) := by
  have before : (tasks thread).stage = .idle := (tracks.sound thread).idle (by rw [idle]; rfl)
  obtain ⟨held, truncated⟩ := Task.receive_stage rand message messages
  refine ⟨fun other => ?_, fun other => ?_, ?_, ?_⟩
  · show Function.update server.program thread _ other = _
    by_cases own : other = thread
    · rw [own, Function.update_self, Function.update_self]
      rfl
    · rw [Function.update_of_ne own, Function.update_of_ne own]
      exact tracks.programs other
  · by_cases own : other = thread
    · rw [own, Function.update_self]
      exact Task.Sound.receive (waits ▸ (tracks.sound thread).updates)
    · rw [Function.update_of_ne own]
      exact tracks.sound other
  · have same : Function.update (fun other => (tasks other).stage.held) thread [] =
        fun other => (tasks other).stage.held :=
      Function.update_eq_self_iff.mpr (congrArg Stage.held before).symm
    rw [update_held, held, same]
    exact tracks.locks
  · have same : Function.update (fun other => (tasks other).stage.truncated) thread none =
        fun other => (tasks other).stage.truncated :=
      Function.update_eq_self_iff.mpr (congrArg Stage.truncated before).symm
    rw [update_truncated, truncated, same]
    exact ⟨tracks.contents.truncating, tracks.contents.saved, tracks.contents.whole⟩

/-- What a step can be. -/
theorem Tracks.step_cases (tracks : Tracks rand clock server tasks) {next : Server Thread}
    (steps : (machine clock).step server thread = some next) :
    (∃ message messages, (tasks thread).program = .pure () ∧
      (tasks thread).rest = message :: messages ∧ next =
        ⟨{ server.shared with received := Function.update server.shared.received thread message },
          Function.update server.program thread
            (onThread (onDisk (executeTaskOnServer rand message)) >>= fun _ =>
              threadTask rand messages)⟩) ∨
    ∃ op rest answer process, (tasks thread).program = .call op rest ∧
      server.shared.exec clock thread (.disk op) = some (answer, process) ∧ next =
        ⟨process, Function.update server.program thread
          (onThread (rest answer) >>= fun _ => threadTask rand (tasks thread).rest)⟩ := by
  have program := tracks.programs thread
  cases running : (tasks thread).program with
  | pure result =>
    rw [running] at program
    cases waits : (tasks thread).rest with
    | nil =>
      rw [waits] at program
      rw [Machine.step, program] at steps
      cases steps
    | cons message messages =>
      rw [waits] at program
      rw [Machine.step, program] at steps
      exact .inl ⟨message, messages, rfl, rfl, (Option.some.inj steps).symm⟩
  | call op rest =>
    rw [Machine.step, tracks.program_call running] at steps
    obtain ⟨⟨answer, process⟩, called, same⟩ := Option.map_eq_some_iff.mp steps
    exact .inr ⟨op, rest, answer, process, rfl, called, same.symm⟩

end Steps

end OnlineStore.Serializability
