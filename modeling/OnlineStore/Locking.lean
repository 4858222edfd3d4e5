/-
This file settles what the semaphores of the data server guarantee, for any number of threads, any
messages and any interleaving.

Writers never overlap, and no two threads wait for each other for ever, although a lookup that
does not find its id leaves its read section twice and takes a reader counter below zero. Readers
exclude writers in the runs whose lookups find their ids; one lookup that fails is enough for a
reader to meet a writer.
-/

import OnlineStore.Concurrency

namespace OnlineStore.Concurrency

open CString Prog Interleaving ReaderWriter

/-! ### Phases and positions -/

theorem Phase.positions_read (phase : Phase) (file : DbFile) :
    (phase.read file).positions = phase.positions := by
  cases phase <;> rfl

theorem Phase.readerAt_positions (file : DbFile) (position : Position) (other : DbFile) :
    (Phase.readerAt file position).positions other =
      if other = file then position else .outside := by
  rw [Phase.readerAt]
  split
  · rename_i outside
    rw [outside, ite_self]
    rfl
  · rfl

/-- The call is allowed at the position of the phase. -/
theorem Phase.MayCall.allowed {lenient : Bool} {phase : Phase} {file : DbFile} {op : LockOp}
    (may : phase.MayCall lenient file op) :
    allowed lenient (phase.positions file) op = true := by
  cases phase with
  | reader own position =>
    obtain ⟨rfl, allows⟩ := may
    rw [Phase.positions, if_pos rfl]
    exact allows
  | writer held reads =>
    cases op with
    | waitMutex =>
      obtain rfl : held = [] := may
      rfl
    | waitWrt =>
      have fresh : file ∉ held := fun member => absurd (may file member) (lt_irrefl _)
      rw [Phase.positions, if_neg fresh]
      rfl
    | postWrt =>
      have member : file ∈ held := may
      rw [Phase.positions, if_pos member]
      rfl
    | _ => exact absurd may id

/-- A phase moves as the position at the lock does. -/
theorem Phase.positions_move {lenient : Bool} {phase : Phase} {file : DbFile} {op : LockOp}
    (may : phase.MayCall lenient file op) (answer : op.Ret) :
    (phase.move file op answer).positions =
      Function.update phase.positions file (after (phase.positions file) op answer) := by
  funext other
  cases phase with
  | reader own position =>
    obtain ⟨rfl, -⟩ := may
    rw [Phase.move, Phase.readerAt_positions]
    by_cases same : other = file
    · subst same
      rw [Function.update_self, if_pos rfl, Phase.positions, if_pos rfl]
    · rw [Function.update_of_ne same, if_neg same, Phase.positions, if_neg same]
  | writer held reads =>
    cases op with
    | waitMutex =>
      obtain rfl : held = [] := may
      by_cases same : other = file
      · subst same
        rw [Function.update_self, Phase.move, Phase.positions, if_pos rfl]
        rfl
      · rw [Function.update_of_ne same, Phase.move, Phase.positions, if_neg same]
        rfl
    | waitWrt =>
      have fresh : file ∉ held := fun member => absurd (may file member) (lt_irrefl _)
      by_cases same : other = file
      · subst same
        rw [Function.update_self, Phase.move, Phase.positions, if_pos List.mem_cons_self,
          Phase.positions, if_neg fresh]
        rfl
      · rw [Function.update_of_ne same, Phase.move, Phase.positions, Phase.positions]
        simp only [List.mem_cons, same, false_or]
    | postWrt =>
      have member : file ∈ held := may
      by_cases same : other = file
      · subst same
        rw [Function.update_self, Phase.move, Phase.positions, Phase.positions, if_pos member]
        simp only [List.mem_filter, decide_eq_true_eq, ne_eq, not_true, and_false, if_false]
        rfl
      · rw [Function.update_of_ne same, Phase.move, Phase.positions, Phase.positions]
        simp only [List.mem_filter, decide_eq_true_eq, ne_eq, same, not_false_iff, and_true]
    | _ => exact absurd may id

/-- A thread that cannot take its call waits in the order of the files. -/
theorem Phase.MayCall.waits {phase : Phase} {file : DbFile} {op : LockOp}
    {locks : DbFile → Lock} (may : phase.MayCall true file op)
    (blocked : (locks file).exec op = none) : Waits rank locks phase.positions file op := by
  refine ⟨may.allowed, fun other different => ?_, blocked⟩
  cases phase with
  | reader own position =>
    obtain ⟨rfl, -⟩ := may
    exact .inl (if_neg different)
  | writer held reads =>
    cases op with
    | waitMutex =>
      obtain rfl : held = [] := may
      exact .inl rfl
    | waitWrt =>
      by_cases member : other ∈ held
      · have fresh : file ∉ held := fun own => absurd (may file own) (lt_irrefl _)
        exact .inr ⟨if_pos member, rfl, if_neg fresh, may other member⟩
      · exact .inl (if_neg member)
    | postWrt => cases blocked
    | _ => exact absurd may id

/-! ### The calls of the process -/

section Values

variable {Thread : Type}

/-- A change of one semaphore is a change of one lock. -/
theorem lock_setSemaphore (process : Process Thread) (semaphore : Semaphore) (value : Nat) :
    (process.setSemaphore semaphore value).lock =
      match semaphore with
      | .mutex file =>
        Function.update process.lock file { process.lock file with mutex := value }
      | .wrt file =>
        Function.update process.lock file { process.lock file with wrt := value } := by
  cases semaphore with
  | mutex file =>
    funext other
    by_cases same : other = file
    · subst same
      simp [Process.lock, Process.setSemaphore]
    · simp [Process.lock, Process.setSemaphore, same]
  | wrt file =>
    funext other
    by_cases same : other = file
    · subst same
      simp [Process.lock, Process.setSemaphore]
    · simp [Process.lock, Process.setSemaphore, same]

theorem lock_addReaders (process : Process Thread) (file : DbFile) (change : Int) :
    (process.addReaders file change).lock = Function.update process.lock file
      { process.lock file with readers := (process.lock file).readers + change } := by
  funext other
  by_cases same : other = file
  · subst same
    simp [Process.lock, Process.addReaders]
  · simp [Process.lock, Process.addReaders, same]

end Values

section Calls

variable {Thread : Type} [DecidableEq Thread] {clock : Nat → Nat} {thread : Thread}
variable {process next : Process Thread} {op : SysOp} {answer : op.Ret}

/-- A call that touches no file changes no file and no record. -/
theorem sysExec_keeps (called : process.sysExec clock thread op = some (answer, next)) :
    next.files = process.files ∧ next.received = process.received ∧
      next.positions = process.positions ∧ next.reads = process.reads := by
  cases op with
  | semWait semaphore =>
    rw [Process.sysExec] at called
    split at called
    · cases called
    · cases called
      exact ⟨rfl, rfl, rfl, rfl⟩
  | crash => cases called
  | spin => cases called
  | _ =>
    cases called
    exact ⟨rfl, rfl, rfl, rfl⟩

theorem sysExec_lock_of_free (free : lockOp op = none)
    (called : process.sysExec clock thread op = some (answer, next)) :
    next.lock = process.lock := by
  cases op with
  | semWait semaphore => cases semaphore <;> cases free
  | semPost semaphore => cases semaphore <;> cases free
  | count file change => cases free
  | counter file => cases free
  | crash => cases called
  | spin => cases called
  | _ =>
    cases called
    rfl

/-- A call on a lock is the operation on it, and leaves the other locks alone. -/
theorem sysExec_lock {file : DbFile} {lockOp' : LockOp} (isLock : lockOp op = some (file, lockOp'))
    (unit : changesByOne op) (called : process.sysExec clock thread op = some (answer, next)) :
    ∃ changed, (process.lock file).exec lockOp' =
        some (lockAnswer lockOp' (counterOf op answer), changed) ∧
      next.lock = Function.update process.lock file changed := by
  cases op with
  | semWait semaphore =>
    rw [Process.sysExec] at called
    split at called
    · cases called
    · rename_i free
      cases called
      rw [lock_setSemaphore]
      cases semaphore with
      | mutex own =>
        cases isLock
        exact ⟨_, if_neg free, rfl⟩
      | wrt own =>
        cases isLock
        exact ⟨_, if_neg free, rfl⟩
  | semPost semaphore =>
    cases called
    rw [lock_setSemaphore]
    cases semaphore with
    | mutex own =>
      cases isLock
      exact ⟨_, rfl, rfl⟩
    | wrt own =>
      cases isLock
      exact ⟨_, rfl, rfl⟩
  | count own change =>
    cases called
    rw [lock_addReaders]
    rcases unit with rfl | rfl
    · cases isLock
      exact ⟨_, rfl, rfl⟩
    · cases isLock
      exact ⟨_, rfl, rfl⟩
  | counter own =>
    cases called
    cases isLock
    exact ⟨_, rfl, (Function.update_eq_self _ _).symm⟩
  | crash => cases called
  | _ => cases isLock

theorem Process.startReads_lock (process : Process Thread) (thread : Thread) (op : SysOp) :
    (process.startReads thread op).lock = process.lock := by
  unfold Process.startReads
  split <;> rfl

theorem Process.startReads_positions (process : Process Thread) (thread : Thread) (op : SysOp) :
    (process.startReads thread op).positions = process.positions := by
  unfold Process.startReads
  split <;> rfl

theorem Process.startReads_received (process : Process Thread) (thread : Thread) (op : SysOp) :
    (process.startReads thread op).received = process.received := by
  unfold Process.startReads
  split <;> rfl

theorem Process.startReads_files (process : Process Thread) (thread : Thread) (op : SysOp) :
    (process.startReads thread op).files = process.files := by
  unfold Process.startReads
  split <;> rfl

theorem Process.record_files (process : Process Thread) (thread : Thread) (op : SysOp)
    (answer : op.Ret) : (process.record thread op answer).files = process.files := by
  unfold Process.record
  split <;> rfl

theorem Process.startReads_reads_other (process : Process Thread) (op : SysOp) {other : Thread}
    (different : other ≠ thread) :
    (process.startReads thread op).reads other = process.reads other := by
  unfold Process.startReads
  split
  · show Function.update process.reads thread _ other = _
    rw [Function.update_of_ne different]
  · rfl

/-- The readings of a thread after an operation on a lock. -/
def readsAfter (reads : DbFile → Nat) (file : DbFile) : LockOp → DbFile → Nat
  | .waitWrt => Function.update reads file 0
  | _ => reads

/-- Only waiting for a semaphore for writing starts a new count. -/
theorem startReads_reads_self {op : SysOp} {file : DbFile} {lockOp' : LockOp}
    (isLock : lockOp op = some (file, lockOp')) :
    (process.startReads thread op).reads thread =
      readsAfter (process.reads thread) file lockOp' := by
  cases op with
  | semWait semaphore =>
    cases semaphore with
    | mutex own =>
      cases isLock
      rfl
    | wrt own =>
      cases isLock
      show Function.update process.reads thread _ thread = _
      rw [Function.update_self]
      rfl
  | semPost semaphore =>
    cases semaphore with
    | mutex own =>
      cases isLock
      rfl
    | wrt own =>
      cases isLock
      rfl
  | count own change =>
    by_cases positive : 0 < change
    · rw [lockOp, if_pos positive] at isLock
      cases isLock
      rfl
    · rw [lockOp, if_neg positive] at isLock
      cases isLock
      rfl
  | counter own =>
    cases isLock
    rfl
  | _ => cases isLock

end Calls

/-! ### The invariant -/

section Invariant

variable {Thread : Type} [Fintype Thread]

/-- The records fit the semaphores, and the phases of the threads fit the records. -/
structure Safe (lenient : Bool) (process : Process Thread) (places : Thread → Text × Phase) :
    Prop where
  balanced : ∀ file, Balanced (process.lock file) fun thread => process.positions thread file
  bounded : ∀ file, Bounded (process.lock file) fun thread => process.positions thread file
  counted : lenient = false → ∀ file, Counted (process.lock file)
    fun thread => process.positions thread file
  received : ∀ thread, process.received thread = (places thread).1
  positions : ∀ thread, process.positions thread = (places thread).2.positions
  reads : ∀ thread held reads, (places thread).2 = .writer held reads → ∀ file ∈ held,
    reads.count file = process.reads thread file

theorem safe_initial (lenient : Bool) (files : DbFile → Text) :
    Safe lenient (Process.initial files : Process Thread) fun _ => ([], .home) where
  balanced _ := balanced_unused
  bounded _ := bounded_unused
  counted _ _ := counted_unused
  received _ := rfl
  positions _ := rfl
  reads _ held reads same file member := by
    obtain ⟨rfl, rfl⟩ := Phase.writer.inj same
    exact absurd member List.not_mem_nil

variable [DecidableEq Thread]
variable {lenient : Bool} {process next : Process Thread} {places : Thread → Text × Phase}
variable {thread : Thread} {message : Text} {phase : Phase}

/-- What a step of one thread has to keep. -/
theorem Safe.of_own (safe : Safe lenient process places)
    (balanced : ∀ file, Balanced (next.lock file) fun member => next.positions member file)
    (bounded : ∀ file, Bounded (next.lock file) fun member => next.positions member file)
    (counted : lenient = false → ∀ file, Counted (next.lock file)
      fun member => next.positions member file)
    (received : next.received = Function.update process.received thread message)
    (positions : next.positions = Function.update process.positions thread phase.positions)
    (elsewhere : ∀ other, other ≠ thread → next.reads other = process.reads other)
    (reads : ∀ held reads, phase = .writer held reads → ∀ file ∈ held,
      reads.count file = next.reads thread file) :
    Safe lenient next (Function.update places thread (message, phase)) where
  balanced := balanced
  bounded := bounded
  counted := counted
  received other := by
    rw [received]
    by_cases own : other = thread
    · subst own
      rw [Function.update_self, Function.update_self]
    · rw [Function.update_of_ne own, Function.update_of_ne own, safe.received]
  positions other := by
    rw [positions]
    by_cases own : other = thread
    · subst own
      rw [Function.update_self, Function.update_self]
    · rw [Function.update_of_ne own, Function.update_of_ne own, safe.positions]
  reads other held reads' same file member := by
    by_cases own : other = thread
    · subst own
      rw [Function.update_self] at same
      exact reads held reads' same file member
    · rw [Function.update_of_ne own] at same
      rw [elsewhere other own]
      exact safe.reads other held reads' same file member

/-- A step that leaves the locks and the positions alone. -/
theorem Safe.of_same_locks (safe : Safe lenient process places) (locks : next.lock = process.lock)
    (same : next.positions = process.positions)
    (received : next.received = Function.update process.received thread message)
    (positions : (places thread).2.positions = phase.positions)
    (elsewhere : ∀ other, other ≠ thread → next.reads other = process.reads other)
    (reads : ∀ held reads, phase = .writer held reads → ∀ file ∈ held,
      reads.count file = next.reads thread file) :
    Safe lenient next (Function.update places thread (message, phase)) := by
  refine safe.of_own ?_ ?_ ?_ received ?_ elsewhere reads
  · rw [locks, same]
    exact safe.balanced
  · rw [locks, same]
    exact safe.bounded
  · rw [locks, same]
    exact safe.counted
  · rw [same, ← positions, ← safe.positions, Function.update_eq_self]

theorem Safe.update_received (safe : Safe lenient process places)
    (here : places thread = (message, phase)) :
    process.received = Function.update process.received thread message := by
  have own : process.received thread = message := by rw [safe.received, here]
  rw [← own, Function.update_eq_self]

theorem Safe.read (safe : Safe lenient process places) (file : DbFile)
    (here : places thread = (message, phase)) :
    Safe lenient (process.read thread file)
      (Function.update places thread (message, phase.read file)) := by
  refine safe.of_same_locks rfl rfl (safe.update_received here) ?_ ?_ ?_
  · rw [Phase.positions_read, here]
  · intro other different
    show Function.update process.reads thread _ other = _
    rw [Function.update_of_ne different]
  · intro held reads same other member
    show _ = Function.update process.reads thread _ thread other
    rw [Function.update_self]
    cases phase with
    | reader own position => cases same
    | writer held' reads' =>
      obtain ⟨rfl, rfl⟩ := Phase.writer.inj same
      have before := safe.reads thread held' reads' (congrArg Prod.snd here)
      by_cases own : other = file
      · subst own
        rw [Function.update_self, if_pos member, List.count_cons_self, before other member]
      · rw [Function.update_of_ne own, ← before other member]
        split
        · rw [List.count_cons_of_ne (Ne.symm own)]
        · rfl

/-- A change of a file keeps the process safe. -/
theorem Safe.of_files (safe : Safe lenient process places) (locks : next.lock = process.lock)
    (received : next.received = process.received) (positions : next.positions = process.positions)
    (reads : next.reads = process.reads) (here : places thread = (message, phase)) :
    Safe lenient next (Function.update places thread (message, phase)) := by
  rw [← here, Function.update_eq_self]
  refine ⟨?_, ?_, ?_, ?_, ?_, ?_⟩
  · rw [locks, positions]
    exact safe.balanced
  · rw [locks, positions]
    exact safe.bounded
  · rw [locks, positions]
    exact safe.counted
  · rw [received]
    exact safe.received
  · rw [positions]
    exact safe.positions
  · rw [reads]
    exact safe.reads

/-- A call that is none on a lock keeps the process safe. -/
theorem Safe.free {clock : Nat → Nat} {op : SysOp} {answer : op.Ret}
    (safe : Safe lenient process places) (free : lockOp op = none)
    (called : process.sysExec clock thread op = some (answer, next)) :
    Safe lenient next places := by
  obtain ⟨-, received, positions, reads⟩ := sysExec_keeps called
  have kept := safe.of_files (sysExec_lock_of_free free called) received positions reads
    (Prod.eta (places thread)).symm
  rwa [Prod.eta, Function.update_eq_self] at kept

theorem count_filter_ne {file other : DbFile} (files : List DbFile) (different : other ≠ file) :
    (files.filter fun other => other ≠ file).count other = files.count other :=
  List.count_filter (decide_eq_true different)

/-- The readings that a phase lists are the ones that are counted. -/
theorem Safe.reads_move {process' : Process Thread} (safe : Safe lenient process places)
    (kept : process'.reads = process.reads)
    (here : places thread = (message, phase)) {op : SysOp} {file : DbFile} {lockOp' : LockOp}
    (isLock : lockOp op = some (file, lockOp')) (may : phase.MayCall lenient file lockOp')
    {answer : lockOp'.Ret} {held reads : List DbFile}
    (same : phase.move file lockOp' answer = .writer held reads) {other : DbFile}
    (member : other ∈ held) :
    reads.count other = (process'.startReads thread op).reads thread other := by
  rw [startReads_reads_self isLock, kept]
  cases phase with
  | reader own position =>
    rw [Phase.move, Phase.readerAt] at same
    split at same
    · obtain ⟨rfl, rfl⟩ := Phase.writer.inj same
      exact absurd member List.not_mem_nil
    · cases same
  | writer held' reads' =>
    have before := safe.reads thread held' reads' (congrArg Prod.snd here)
    cases lockOp' with
    | waitMutex => cases same
    | waitWrt =>
      obtain ⟨rfl, rfl⟩ := Phase.writer.inj same
      by_cases own : other = file
      · subst own
        have none : other ∉ reads'.filter fun member => member ≠ other := fun member =>
          of_decide_eq_true (List.mem_filter.mp member).2 rfl
        rw [List.count_eq_zero.mpr none]
        show _ = Function.update (process.reads thread) other 0 other
        rw [Function.update_self]
      · rw [count_filter_ne _ own, before other ((List.mem_cons.mp member).resolve_left own)]
        show _ = Function.update (process.reads thread) file 0 other
        rw [Function.update_of_ne own]
    | postWrt =>
      obtain ⟨rfl, rfl⟩ := Phase.writer.inj same
      obtain ⟨inside, kept⟩ := List.mem_filter.mp member
      rw [count_filter_ne _ (of_decide_eq_true kept), before other inside]
      rfl
    | _ => exact absurd may id

/-- A call on a lock keeps the process safe. -/
theorem Safe.lock {clock : Nat → Nat} {op : SysOp} {answer : op.Ret} {file : DbFile}
    {lockOp' : LockOp} (safe : Safe lenient process places)
    (here : places thread = (message, phase)) (isLock : lockOp op = some (file, lockOp'))
    (unit : changesByOne op) (may : phase.MayCall lenient file lockOp')
    (called : process.sysExec clock thread op = some (answer, next)) :
    Safe lenient ((next.record thread op answer).startReads thread op)
      (Function.update places thread (message,
        phase.move file lockOp' (lockAnswer lockOp' (counterOf op answer)))) := by
  obtain ⟨-, received, positions, reads⟩ := sysExec_keeps called
  obtain ⟨changed, executed, locks⟩ := sysExec_lock isLock unit called
  have own : process.positions thread = phase.positions := by rw [safe.positions, here]
  have recorded : next.record thread op answer = { next with
      positions := Function.update process.positions thread (Function.update phase.positions file
        (after (phase.positions file) lockOp' (lockAnswer lockOp' (counterOf op answer)))) } := by
    simp only [Process.record, isLock, positions, own]
  have moves := move_of_exec may.allowed executed
  rw [← own] at moves
  have lock : ((next.record thread op answer).startReads thread op).lock =
      Function.update process.lock file changed := by
    rw [Process.startReads_lock, recorded, ← locks]
    rfl
  have moved : ((next.record thread op answer).startReads thread op).positions =
      Function.update process.positions thread (Function.update (process.positions thread) file
        (after (process.positions thread file) lockOp'
          (lockAnswer lockOp' (counterOf op answer)))) := by
    rw [Process.startReads_positions, recorded, own]
  refine safe.of_own ?_ ?_ ?_ ?_ ?_ ?_ ?_
  · rw [lock, moved]
    exact forall_locks_move safe.balanced ((safe.balanced file).move moves)
  · rw [lock, moved]
    exact forall_locks_move safe.bounded ((safe.bounded file).move moves)
  · intro strict
    rw [lock, moved]
    exact forall_locks_move (safe.counted strict)
      ((safe.counted strict file).move (strict ▸ moves))
  · rw [Process.startReads_received, recorded]
    exact received.trans (safe.update_received here)
  · rw [moved, Phase.positions_move may, own]
  · intro other different
    rw [Process.startReads_reads_other _ _ different, recorded, ← reads]
  · intro held listed same other member
    refine safe.reads_move ?_ here isLock may same member
    rw [recorded, ← reads]

/-- Every call of the protocol keeps the process safe. -/
theorem Safe.exec {clock : Nat → Nat} {op : ThreadOp} {answer : op.Ret}
    (safe : Safe lenient process places)
    (allows : (threadProtocol lenient).allows (places thread) op)
    (called : process.exec clock thread op = some (answer, next)) :
    Safe lenient next
      (Function.update places thread ((threadProtocol lenient).next (places thread) op answer)) := by
  cases here : places thread with
  | mk message phase =>
  rw [here] at allows
  cases op with
  | readSocket received =>
    cases called
    refine safe.of_same_locks rfl rfl rfl ?_ (fun _ _ => rfl) fun held reads same => ?_
    · rw [here]
    · exact safe.reads thread held reads (here ▸ same)
  | disk op =>
    cases op with
    | sys op =>
      obtain ⟨⟨answer, middle⟩, executed, same⟩ := Option.map_eq_some_iff.mp called
      obtain ⟨rfl, rfl⟩ := Prod.mk.inj same
      show Safe lenient _ (Function.update places thread (message, phase.sysNext op answer))
      cases isLock : lockOp op with
      | none =>
        have kept := safe.free isLock executed
        have started : (middle.record thread op answer).startReads thread op = middle := by
          rw [Process.record, isLock]
          cases op with
          | semWait semaphore => cases semaphore <;> cases isLock
          | _ => rfl
        rw [started, Phase.sysNext, isLock, ← here, Function.update_eq_self]
        exact kept
      | some called =>
        obtain ⟨file, lockOp'⟩ := called
        rw [Phase.sysNext, isLock]
        exact safe.lock here isLock allows.1 (allows.2 file lockOp' isLock) executed
    | read file =>
      cases called
      exact safe.read file here
    | truncate file =>
      cases called
      exact safe.of_files rfl rfl rfl rfl here
    | write file text =>
      cases called
      exact safe.of_files rfl rfl rfl rfl here

end Invariant

/-! ### Runs -/

section Runs

variable {Thread : Type}

/-- Whether the next step of a thread, if it loads the file that its message looks an id up in,
finds the id. -/
def findsID (server : Server Thread) (thread : Thread) : Bool :=
  match server.program thread with
  | .call (.disk (.read file)) _ =>
    decide (server.shared.positions thread file ≠ .reading) ||
      lookupFinds (server.shared.received thread) file (server.shared.files file)
  | _ => true

variable [Fintype Thread] [DecidableEq Thread]
variable {clock : Nat → Nat} {rand : Rand} {files : DbFile → Text} {messages : Thread → List Text}
variable {server : Server Thread}

theorem answered {lenient : Bool} {places : Thread → Text × Phase} {thread : Thread}
    {op : ThreadOp} {rest : op.Ret → ThreadProg Unit} {answer : op.Ret} {next : Process Thread}
    (safe : Safe lenient server.shared places) (finds : lenient = false → findsID server thread = true)
    (running : server.program thread = .call op rest)
    (called : server.shared.exec clock thread op = some (answer, next)) :
    threadAnswers lenient (places thread) op answer := by
  cases here : places thread with
  | mk message phase =>
  cases op with
  | readSocket received => exact trivial
  | disk op =>
    cases op with
    | read file =>
      cases called
      refine ⟨server.shared.files file, rfl, fun strict reading => ?_⟩
      have found := finds strict
      rw [findsID, running] at found
      have received : server.shared.received thread = message := by rw [safe.received, here]
      have position : server.shared.positions thread file = .reading := by
        rw [safe.positions, here]
        exact reading
      rw [← received]
      exact (Bool.or_eq_true _ _ ▸ found).resolve_left fun elsewhere =>
        of_decide_eq_true elsewhere position
    | _ => exact trivial

/-- In every reached state the threads follow the protocol from safe phases. The strict protocol
needs runs whose lookups find their ids. -/
theorem follows_of_reaches (lenient : Bool) {admits : Server Thread → Thread → Prop}
    (finds : lenient = false → ∀ server thread, admits server thread → findsID server thread = true)
    (reached : (machine clock).Reaches admits (start rand files messages) server) :
    Machine.Follows (threadProtocol lenient) (threadAnswers lenient)
      (fun place => place.2 = .home) (Safe lenient) server := by
  have starts : Machine.Follows (threadProtocol lenient) (threadAnswers lenient)
      (fun place => place.2 = .home) (Safe lenient) (start rand files messages) :=
    ⟨fun _ => ([], .home), safe_initial lenient files, fun thread =>
      obeys_threadTask rand (messages thread)⟩
  refine Machine.follows_of_reaches ?_ ?_ starts reached
  · intro now places thread op rest answer next admitted running safe allows called
    exact ⟨answered safe (fun strict => finds strict now thread admitted) running called,
      safe.exec allows called⟩
  · intro thread body place again
    cases again

end Runs

/-! ### Writers never overlap -/

section Writers

variable {Thread : Type} [DecidableEq Thread] {clock : Nat → Nat} {server : Server Thread}

/-- The semaphores for writing are binary, each file has one writer at most, and only the writer
of a file changes it. It has loaded the file since it took the semaphore when it truncates it: it
has read it a second time by then, to count the lines. -/
structure WritersApart (clock : Nat → Nat) (server : Server Thread) : Prop where
  binary : ∀ file, server.shared.semaphores (.wrt file) ≤ 1
  apart : ∀ file writer other, server.shared.positions writer file = .writing →
    server.shared.positions other file = .writing → other = writer
  changes : ∀ thread next, (machine clock).step server thread = some next → ∀ file,
    next.shared.files file ≠ server.shared.files file →
      server.shared.positions thread file = .writing
  loaded : ∀ thread file rest, server.program thread = .call (.disk (.truncate file)) rest →
    2 ≤ server.shared.reads thread file

theorem mayWrite_writing {phase : Phase} {file : DbFile} {times : Nat}
    (may : phase.MayWrite file times) : phase.positions file = .writing := by
  cases phase with
  | reader own position => exact absurd may id
  | writer held reads => exact if_pos may.1

/-- A call that changes a file is one that the protocol allows to the writer of the file only. -/
theorem writing_of_changes {lenient : Bool} {place : Text × Phase} {thread : Thread} {op : ThreadOp}
    {answer : op.Ret} {process next : Process Thread}
    (allows : (threadProtocol lenient).allows place op)
    (called : process.exec clock thread op = some (answer, next)) {file : DbFile}
    (changes : next.files file ≠ process.files file) : place.2.positions file = .writing := by
  have written (own : DbFile) (text : Text) (may : place.2.MayWrite own 2)
      (changes : Function.update process.files own text file ≠ process.files file) :
      place.2.positions file = .writing := by
    by_cases same : file = own
    · rw [same]
      exact mayWrite_writing may
    · exact absurd (Function.update_of_ne same _ _) changes
  cases op with
  | readSocket message =>
    cases called
    exact absurd rfl changes
  | disk op =>
    cases op with
    | sys op =>
      obtain ⟨⟨answer, middle⟩, executed, same⟩ := Option.map_eq_some_iff.mp called
      obtain ⟨rfl, rfl⟩ := Prod.mk.inj same
      refine absurd ?_ changes
      rw [← (sysExec_keeps executed).1, Process.startReads_files, Process.record_files]
    | read own =>
      cases called
      exact absurd rfl changes
    | truncate own =>
      cases called
      exact written own [] allows changes
    | write own text =>
      cases called
      exact written own text allows changes

variable [Fintype Thread] {rand : Rand} {files : DbFile → Text} {messages : Thread → List Text}

/-- Writers never overlap, in all interleavings of any number of threads with any messages. -/
theorem writersApart_of_reaches
    (reached : (machine clock).Reaches (fun _ _ => True) (start rand files messages) server) :
    WritersApart clock server := by
  obtain ⟨places, safe, obeys⟩ := follows_of_reaches true (fun strict => by cases strict) reached
  refine ⟨fun file => (safe.balanced file).wrt_le_one, fun file writer other writes also =>
    (safe.balanced file).writer_unique writes also, ?_, ?_⟩
  · intro thread next steps file changes
    rcases Machine.step_cases steps with ⟨result, body, running, again, rfl⟩ |
      ⟨op, continuation, answer, state, running, called, rfl⟩
    · cases again
    · have own := obeys thread
      rw [running, obeys_call] at own
      rw [safe.positions]
      exact writing_of_changes own.1 called changes
  · intro thread file rest running
    have own := obeys thread
    rw [running, obeys_call] at own
    have may : (places thread).2.MayWrite file 2 := own.1
    cases here : (places thread).2 with
    | reader own position =>
      rw [here] at may
      exact absurd may id
    | writer held reads =>
      rw [here] at may
      rw [← safe.reads thread held reads here file may.1]
      exact may.2

/-- Somebody looks up a product and then views all of them, while somebody else adds one. -/
def viewAndAdd (productID : Text) : Bool → List Text
  | false => ["[VALIDATE_ID],".toList ++ productID ++ ",[PRODUCT],".toList,
      "[VIEW_PRODUCTS],[BUYER],".toList]
  | true => ["[NEW_PRODUCT],1000,Rope,5,3,".toList]

/-- The product is not there, so the counter is at zero when the reader is in its second read
section, and the writer truncates the file that the reader is about to read. -/
theorem runs_viewAndAdd :
    ((machine fun _ => 0).runs (fun _ _ => True)
      (List.replicate 22 false ++ List.replicate 6 true)
      (start (fun _ => 0) shippedFile (viewAndAdd "1234".toList))).map (fun server =>
        (server.shared.files .ProductInfo, server.shared.positions true .ProductInfo,
          server.shared.positions false .ProductInfo)) = some ([], .writing, .reading) := by
  decide

theorem writersApart_of_reaches_viewAndAdd :
    ∃ server, (machine fun _ => 0).runs (fun _ _ => True)
        (List.replicate 22 false ++ List.replicate 6 true)
        (start (fun _ => 0) shippedFile (viewAndAdd "1234".toList)) = some server ∧
      server.shared.positions true .ProductInfo = .writing ∧ WritersApart (fun _ => 0) server := by
  obtain ⟨server, ran, same⟩ := Option.map_eq_some_iff.mp runs_viewAndAdd
  obtain ⟨-, writes, -⟩ : _ ∧ _ ∧ _ := (Prod.mk.inj same).imp id Prod.mk.inj
  exact ⟨server, ran, writes, writersApart_of_reaches (Machine.reaches_of_runs ran)⟩

end Writers

/-! ### Nobody waits for ever -/

section Progress

instance : Fintype DbFile where
  elems := {.CustomerInfo, .SellerInfo, .ProductInfo, .BillingInfo, .CustomerOrder}
  complete file := by cases file <;> decide

/-- The handler is not in a computation that crashes or does not end. -/
def computes : ThreadProg Unit → Bool
  | .call (.disk (.sys .crash)) _ => false
  | .call (.disk (.sys .spin)) _ => false
  | _ => true

variable {Thread : Type} [DecidableEq Thread]
variable {clock : Nat → Nat} {server : Server Thread} {thread : Thread}

/-- A call without an answer waits for a semaphore. -/
theorem blocked_semaphore {op : ThreadOp} {rest : op.Ret → ThreadProg Unit}
    {process : Process Thread} (runs : computes (.call op rest) = true)
    (blocked : process.exec clock thread op = none) :
    ∃ sysOp file lockOp', op = .disk (.sys sysOp) ∧ lockOp sysOp = some (file, lockOp') ∧
      (process.lock file).exec lockOp' = none := by
  cases op with
  | readSocket message => cases blocked
  | disk op =>
    cases op with
    | sys op =>
      have executed : process.sysExec clock thread op = none := Option.map_eq_none_iff.mp blocked
      cases op with
      | semWait semaphore =>
        rw [Process.sysExec, ite_eq_left_iff] at executed
        have taken : process.semaphores semaphore = 0 :=
          by_contra fun free => absurd (executed free) (Option.some_ne_none _)
        cases semaphore with
        | mutex file => exact ⟨_, file, .waitMutex, rfl, rfl, if_pos taken⟩
        | wrt file => exact ⟨_, file, .waitWrt, rfl, rfl, if_pos taken⟩
      | crash => cases runs
      | spin => cases runs
      | _ => cases executed
    | _ => cases blocked

variable [Fintype Thread] {rand : Rand} {files : DbFile → Text} {messages : Thread → List Text}

/-- The data server cannot deadlock. In every reached state in which a thread has not finished,
and in which every handler's own computation ends, some thread can take its next step. A text of
20 or more characters that is copied and a missing token count as a computation that does not
end. -/
theorem exists_step_of_reaches
    (reached : (machine clock).Reaches (fun _ _ => True) (start rand files messages) server)
    (runs : ∀ thread, computes (server.program thread) = true)
    (unfinished : server.finished thread = false) :
    ∃ mover next, (machine clock).step server mover = some next := by
  obtain ⟨places, safe, obeys⟩ := follows_of_reaches true (fun strict => by cases strict) reached
  by_contra nobody
  push Not at nobody
  have waits (waiting : Thread) (op : ThreadOp) (rest : op.Ret → ThreadProg Unit)
      (running : server.program waiting = .call op rest) :
      ∃ file lockOp', Waits rank server.shared.lock (server.shared.positions waiting) file
        lockOp' := by
    have blocked : server.shared.exec clock waiting op = none :=
      Machine.exec_eq_none_of_step running (Option.eq_none_iff_forall_ne_some.mpr (nobody waiting))
    obtain ⟨sysOp, file, lockOp', rfl, isLock, executed⟩ :=
      blocked_semaphore (running ▸ runs waiting) blocked
    have own := obeys waiting
    rw [running, obeys_call] at own
    have may : (places waiting).2.MayCall true file lockOp' := own.1.2 file lockOp' isLock
    refine ⟨file, lockOp', ?_⟩
    rw [safe.positions]
    exact may.waits executed
  have stuck : Stuck rank server.shared.lock server.shared.positions := by
    intro party
    have own := obeys party
    cases running : server.program party with
    | pure result =>
      rw [running, obeys_pure] at own
      refine .inl fun file => ?_
      rw [safe.positions, own]
      rfl
    | call op rest => exact .inr (waits party op rest running)
  cases running : server.program thread with
  | pure result =>
    rw [Threads.finished, running] at unfinished
    cases unfinished
  | call op rest =>
    obtain ⟨file, lockOp', waiting⟩ := waits thread op rest running
    exact stuck.not_waits safe.balanced safe.bounded thread file lockOp' waiting

/-- Both threads add a product, one of them after a lookup that fails. -/
def addAndAdd : Bool → List Text
  | false => ["[VALIDATE_ID],1234,[PRODUCT],".toList, "[NEW_PRODUCT],1000,Rope,5,3,".toList]
  | true => ["[NEW_PRODUCT],1001,Belt,5,3,".toList]

/-- The counter is below zero and the first thread waits for the second. -/
theorem exists_step_of_reaches_addAndAdd :
    ∃ server, (machine fun _ => 0).runs (fun _ _ => True)
        (List.replicate 18 false ++ List.replicate 2 true)
        (start (fun _ => 0) shippedFile addAndAdd) = some server ∧
      (server.shared.readerCounters .ProductInfo = -1 ∧
        ((machine fun _ => 0).step server false).isNone = true) ∧
      ∃ mover next, (machine fun _ => 0).step server mover = some next := by
  have ran : ((machine fun _ => 0).runs (fun _ _ => True)
      (List.replicate 18 false ++ List.replicate 2 true)
      (start (fun _ => 0) shippedFile addAndAdd)).map (fun server =>
        ((server.shared.readerCounters .ProductInfo,
          ((machine fun _ => 0).step server false).isNone),
        (computes (server.program false), computes (server.program true)),
          server.finished false)) = some ((-1, true), (true, true), false) := by
    decide
  obtain ⟨server, ran, same⟩ := Option.map_eq_some_iff.mp ran
  obtain ⟨values, runs, unfinished⟩ := Prod.mk.inj same |>.imp id Prod.mk.inj
  exact ⟨server, ran, Prod.mk.inj values, exists_step_of_reaches (Machine.reaches_of_runs ran)
    (Bool.forall_bool.mpr (Prod.mk.inj runs)) unfinished⟩

end Progress

/-! ### Readers exclude writers while no lookup fails -/

section Readers

variable {Thread : Type} [Fintype Thread] [DecidableEq Thread]
variable {clock : Nat → Nat} {rand : Rand} {files : DbFile → Text} {messages : Thread → List Text}
variable {server : Server Thread}

/-- While some thread is in a read section of a file, no thread writes the file. -/
def ReadersExclude (server : Server Thread) : Prop :=
  ∀ file reader writer, server.shared.positions reader file = .reading →
    server.shared.positions writer file ≠ .writing

/-- As long as every lookup finds its id, readers exclude writers. -/
theorem readersExclude_of_findsID (reached : (machine clock).Reaches
    (fun server thread => findsID server thread = true) (start rand files messages) server) :
    ReadersExclude server := by
  obtain ⟨places, safe, -⟩ := follows_of_reaches false (fun _ _ _ finds => finds) reached
  exact fun file reader writer reads =>
    (safe.balanced file).not_writing (safe.counted rfl file) reads writer

/-- The product is there. The reader is in its second read section and the writer waits. -/
theorem readersExclude_of_findsID_viewAndAdd :
    ∃ server, (machine fun _ => 0).runs (fun server thread => findsID server thread = true)
        (List.replicate 19 false ++ [true])
        (start (fun _ => 0) shippedFile (viewAndAdd "2000".toList)) = some server ∧
      server.shared.positions false .ProductInfo = .reading ∧ ReadersExclude server := by
  have ran : ((machine fun _ => 0).runs (fun server thread => findsID server thread = true)
      (List.replicate 19 false ++ [true])
      (start (fun _ => 0) shippedFile (viewAndAdd "2000".toList))).map
        (fun server => server.shared.positions false .ProductInfo) = some .reading := by
    decide
  obtain ⟨server, ran, reads⟩ := Option.map_eq_some_iff.mp ran
  exact ⟨server, ran, reads, readersExclude_of_findsID (Machine.reaches_of_runs ran)⟩

/-- One lookup that fails is enough for a reader to meet a writer. -/
theorem viewAndAdd_not_excluded :
    ¬∀ server, (machine fun _ => 0).Reaches (fun _ _ => True)
        (start (fun _ => 0) shippedFile (viewAndAdd "1234".toList)) server →
      ReadersExclude server := by
  intro excluded
  obtain ⟨server, ran, same⟩ := Option.map_eq_some_iff.mp runs_viewAndAdd
  obtain ⟨-, writes, reads⟩ : _ ∧ _ ∧ _ := (Prod.mk.inj same).imp id Prod.mk.inj
  exact excluded server (Machine.reaches_of_runs ran) .ProductInfo false true reads writes

end Readers

end OnlineStore.Concurrency
