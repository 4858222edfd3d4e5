/-
This file settles which of the locking demonstrations can deadlock.

The processes of `dsModel_All_Fix`, with any commands, wait for the semaphores of the files in one
order, and then no process waits for ever unless it is never scheduled. In the scenario,
`dl_compOrder` waits in this order and `dl_compOrderNU` in the opposite one. A set of such
processes can deadlock exactly when both are among them; the fix turns the second into the first.
-/

import OnlineStore.Draining
import OnlineStore.Locking
import OnlineStore.LockingModel

namespace OnlineStore.LockingModel

open CString Prog Interleaving ReaderWriter

/-! ### Waiting in order -/

/-- The file that a call is about. -/
def Op.file : Op → DbFile
  | .semWait semaphore => semaphore.file
  | .semPost semaphore => semaphore.file
  | .semTrywait semaphore => semaphore.file
  | .semGetvalue semaphore => semaphore.file
  | .fopen file _ => file
  | .fclose file => file

/-- A process waits outside of all other locks, or it writes files of lower ranks and waits to
write another one. -/
def Phase.MayWait (rank : DbFile → Nat) (phase : Phase) : Op → Prop
  | .semWait semaphore => ∀ other, other ≠ semaphore.file → phase.positions other = .outside ∨
      phase.positions other = .writing ∧ semaphore = .wrt semaphore.file ∧
        phase.positions semaphore.file = .outside ∧ rank other < rank semaphore.file
  | _ => True

/-- The lock protocol, with the waits in the order of the ranks. -/
def ordered (rank : DbFile → Nat) : Protocol Op Op.Ret Phase where
  allows phase op := protocol.allows phase op ∧ phase.MayWait rank op
  next := protocol.next

/-- From a phase the program follows the protocol and waits in order. -/
abbrev Waiting (rank : DbFile → Nat) {Result : Type} (phase last : Phase)
    (program : Prog Op Op.Ret Result) : Prop :=
  Obeys (ordered rank) (fun _ _ _ => True) (fun _ phase => phase = last) phase program

/-- All calls of the program are about one file. -/
def About {Result : Type} (file : DbFile) : Prog Op Op.Ret Result → Prop
  | .pure _ => True
  | .call op rest => op.file = file ∧ ∀ answer, About file (rest answer)

/-- The program never waits. -/
def NeverWaits {Result : Type} : Prog Op Op.Ret Result → Prop
  | .pure _ => True
  | .call (.semWait _) _ => False
  | .call _ rest => ∀ answer, NeverWaits (rest answer)

section Rules

variable {rank : DbFile → Nat} {First Second : Type} {phase middle last : Phase} {file : DbFile}

theorem Waiting.bind {program : Prog Op Op.Ret First} {next : First → Prog Op Op.Ret Second}
    (first : Waiting rank phase middle program)
    (second : ∀ result, Waiting rank middle last (next result)) :
    Waiting rank phase last (program >>= next) := by
  refine Obeys.bind first ?_
  rintro result _ rfl
  exact second result

theorem About.bind {program : Prog Op Op.Ret First} {next : First → Prog Op Op.Ret Second}
    (first : About file program) (second : ∀ result, About file (next result)) :
    About file (program >>= next) := by
  induction program with
  | pure result => exact second result
  | call op rest inductionHypothesis =>
    exact ⟨first.1, fun answer => inductionHypothesis answer (first.2 answer)⟩

/-- A call leaves the positions at the other files alone. -/
theorem next_other (phase : Phase) {op : Op} (answer : op.Ret) {other : DbFile}
    (different : other ≠ op.file) :
    (protocol.next phase op answer).positions other = phase.positions other := by
  cases op with
  | semWait semaphore => cases semaphore <;> first | rfl | exact phase.move_other _ _ different
  | semPost semaphore => cases semaphore <;> exact phase.move_other _ _ different
  | semTrywait semaphore => cases semaphore <;> first | rfl | exact phase.move_other _ _ different
  | semGetvalue semaphore => cases semaphore <;> first | rfl | exact phase.move_other _ _ different
  | fopen file access => rfl
  | fclose file => rfl

/-- A process that is at one lock only waits in every order. -/
theorem About.waiting {program : Prog Op Op.Ret First} (about : About file program)
    (leads : Leads phase last program)
    (outside : ∀ other, other ≠ file → phase.positions other = .outside) :
    Waiting rank phase last program := by
  induction program generalizing phase with
  | pure result => exact leads
  | call op rest inductionHypothesis =>
    obtain ⟨rfl, later⟩ := about
    refine obeys_call.mpr ⟨⟨leads.1, ?_⟩, fun answer _ => ?_⟩
    · cases op with
      | semWait semaphore => exact fun other different => .inl (outside other different)
      | _ => exact trivial
    · refine inductionHypothesis answer (later answer) (leads.2 answer trivial) ?_
      intro other different
      exact (next_other phase answer different).trans (outside other different)

theorem NeverWaits.waiting {program : Prog Op Op.Ret First} (never : NeverWaits program)
    (leads : Leads phase last program) : Waiting rank phase last program := by
  induction program generalizing phase with
  | pure result => exact leads
  | call op rest inductionHypothesis =>
    cases op with
    | semWait semaphore => exact never.elim
    | _ => exact obeys_call.mpr ⟨⟨leads.1, trivial⟩, fun answer _ =>
        inductionHypothesis answer (never answer) (leads.2 answer trivial)⟩

end Rules

/-! ### Readers and writers -/

section Sections

variable {rank : DbFile → Nat}

theorem about_perform {op : Op} {file : DbFile} (same : op.file = file) :
    About file (Prog.perform op : Prog Op Op.Ret op.Ret) :=
  ⟨same, fun _ => trivial⟩

theorem about_readerEntry (file : DbFile) : About file (readerEntry file) := by
  refine (about_perform rfl).bind fun _ => (about_perform rfl).bind fun _ =>
    (about_perform rfl).bind fun readers => ?_
  dsimp only
  split
  · exact (about_perform rfl).bind fun _ => about_perform rfl
  · exact about_perform rfl

theorem about_readerExit (file : DbFile) : About file (readerExit file) := by
  refine (about_perform rfl).bind fun _ => (about_perform rfl).bind fun _ =>
    (about_perform rfl).bind fun readers => ?_
  dsimp only
  split
  · exact (about_perform rfl).bind fun _ => about_perform rfl
  · exact about_perform rfl

theorem waiting_reader (file : DbFile) : Waiting rank .home .home (reader (file, .read)) := by
  have about : About file (reader (file, .read)) :=
    (about_readerEntry file).bind fun _ =>
      ((about_perform rfl).bind fun _ => about_perform rfl).bind fun _ => about_readerExit file
  exact about.waiting (reader_leads file) fun _ _ => rfl

theorem neverWaits_useAll (uses : List (DbFile × Access)) : NeverWaits (useAll uses) := by
  induction uses with
  | nil => trivial
  | cons use uses inductionHypothesis => exact fun _ _ => inductionHypothesis

theorem neverWaits_postAll (files : List DbFile) : NeverWaits (postAll files) := by
  induction files with
  | nil => trivial
  | cons file files inductionHypothesis => exact fun _ => inductionHypothesis

/-- A writer that takes the semaphores for writing by rank waits in order. -/
theorem waiting_waitAll {files : List DbFile} {held : DbFile → Bool} {last : Phase}
    (sorted : files.Pairwise fun file other => rank file < rank other)
    (above : ∀ other, held other = true → ∀ file ∈ files, rank other < rank file)
    (leads : Leads (.writing held) last (waitAll files)) :
    Waiting rank (.writing held) last (waitAll files) := by
  induction files generalizing held with
  | nil => exact leads
  | cons file files inductionHypothesis =>
    obtain ⟨before, sorted⟩ := List.pairwise_cons.mp sorted
    have fresh : held file = false := by
      rw [← Bool.not_eq_true]
      exact fun holds => lt_irrefl _ (above file holds file List.mem_cons_self)
    have taken : protocol.next (.writing held) (.semWait (.wrt file)) () =
        .writing (Function.update held file true) :=
      Phase.writing_move (by rw [fresh]; rfl)
    refine obeys_call.mpr ⟨⟨leads.1, ?_⟩, fun answer _ => ?_⟩
    · intro other different
      cases holds : held other with
      | false => exact .inl (congrArg writerAt holds)
      | true =>
        exact .inr ⟨congrArg writerAt holds, rfl, congrArg writerAt fresh,
          above other holds file List.mem_cons_self⟩
    · have later := leads.2 answer trivial
      rw [taken] at later
      show Waiting rank (protocol.next (.writing held) (.semWait (.wrt file)) ()) _ _
      rw [taken]
      refine inductionHypothesis sorted (fun other holds file' member => ?_) later
      by_cases own : other = file
      · rw [own]
        exact before file' member
      · rw [Function.update_of_ne own] at holds
        exact above other holds file' (List.mem_cons_of_mem _ member)

/-- A writer may post in another order than the one in which it has waited. -/
theorem waiting_writer {files posted : List DbFile} {uses : List (DbFile × Access)}
    (sorted : files.Pairwise fun file other => rank file < rank other)
    (covered : ∀ use ∈ uses, use.1 ∈ files) (all : posted.Perm files) :
    Waiting rank .home .home (do
      waitAll files
      useAll uses
      postAll posted) := by
  have distinct : files.Nodup := sorted.imp fun below same => absurd (same ▸ below) (lt_irrefl _)
  have waits : Leads .home (.writing fun file => decide (file ∈ files)) (waitAll files) :=
    waitAll_leads distinct (fun _ _ => rfl) fun _ => rfl
  have free (file : DbFile) : false = (decide (file ∈ files) && !decide (file ∈ posted)) := by
    rw [decide_eq_decide.mpr (all.mem_iff (a := file)), Bool.and_not_self]
  have posts : Leads (.writing fun file => decide (file ∈ files)) .home (postAll posted) :=
    postAll_leads (all.nodup_iff.mpr distinct)
      (fun _ member => decide_eq_true (all.mem_iff.mp member)) free
  have inOrder : Waiting rank (.writing fun _ => false)
      (.writing fun file => decide (file ∈ files)) (waitAll files) :=
    waiting_waitAll sorted (fun _ holds => absurd holds Bool.false_ne_true) waits
  refine Waiting.bind inOrder fun _ => ?_
  refine Waiting.bind ((neverWaits_useAll uses).waiting (useAll_leads fun use member =>
    decide_eq_true (covered use member))) fun _ => ?_
  exact (neverWaits_postAll posted).waiting posts

end Sections

/-! ### The loop -/

section Loop

open Concurrency (rank)

variable {files : List DbFile} {uses : List (DbFile × Access)}

theorem waiting_ranked (sorted : files.Pairwise fun file other => rank file < rank other)
    (covered : ∀ use ∈ uses, use.1 ∈ files) : Waiting rank .home .home (writer files uses) :=
  waiting_writer sorted covered (.refl _)

theorem waiting_ite {Result : Type} {phase last : Phase} {condition : Prop} [Decidable condition]
    {yes no : Prog Op Op.Ret Result} (first : Waiting rank phase last yes)
    (second : Waiting rank phase last no) :
    Waiting rank phase last (if condition then yes else no) := by
  split
  · exact first
  · exact second

theorem waiting_editBuyer : Waiting rank .home .home editBuyer :=
  waiting_ranked (by decide) (by decide)

theorem waiting_changeProduct (com : Com) : Waiting rank .home .home (changeProduct com) := by
  rw [changeProduct]
  cases com.valid with
  | false => rfl
  | true =>
    cases com.valid2 with
    | false => exact waiting_ranked (by decide) (by decide)
    | true => exact waiting_ranked (by decide) (by decide)

theorem waiting_editInfo (com : Com) : Waiting rank .home .home (editInfo com) := by
  refine waiting_ite (waiting_ite waiting_editBuyer
    (waiting_ite ?_ (waiting_ite waiting_editBuyer rfl))) (waiting_ite ?_ rfl)
  · exact waiting_ranked (by decide) (by decide)
  · exact waiting_ranked (by decide) (by decide)

/-- The loop body of every command waits in the order of the files. -/
theorem waiting_mainLoop (com : Com) : Waiting rank .home .home (mainLoop com) := by
  have readers (first second : DbFile) : Waiting rank .home .home
      (reader (first, .read) >>= fun _ => reader (second, .read)) :=
    (waiting_reader first).bind fun _ => waiting_reader second
  rw [mainLoop]
  repeat' with_reducible refine waiting_ite ?_ ?_
  all_goals first
    | exact waiting_reader _
    | exact readers _ _
    | exact waiting_ranked (by decide) (by decide)
    | exact waiting_changeProduct com
    | exact waiting_editInfo com
    | rfl

end Loop

/-! ### Nobody waits for ever -/

section Progress

theorem allowed_lenient {position : Position} {op : LockOp}
    (allows : allowed false position op = true) : allowed true position op = true := by
  cases position <;> cases op <;> first | exact allows | rfl

/-- A call that has no answer waits in order. -/
theorem waits_of_blocked {Process : Type} [DecidableEq Process] {rank : DbFile → Nat}
    {world : World Process} {process : Process} {phase : Phase} {op : Op}
    (allows : (ordered rank).allows phase op) (blocked : world.exec process op = none) :
    ∃ file lockOp, Waits rank world.lock phase.positions file lockOp := by
  obtain ⟨may, inOrder⟩ := allows
  cases op with
  | semWait semaphore =>
    rw [World.exec, ite_eq_left_iff] at blocked
    have taken : world.values semaphore = 0 :=
      by_contra fun free => absurd (blocked free) (Option.some_ne_none _)
    cases semaphore with
    | mutex file =>
      refine ⟨file, .waitMutex, allowed_lenient may.1, fun other different => ?_, if_pos taken⟩
      exact (inOrder other different).imp_right fun waits => by cases waits.2.1
    | wrt file =>
      refine ⟨file, .waitWrt, allowed_lenient may.1, fun other different => ?_, if_pos taken⟩
      exact (inOrder other different).imp_right fun waits => ⟨waits.1, rfl, waits.2.2⟩
    | counter file => exact may.elim
  | semTrywait semaphore =>
    rw [World.exec] at blocked
    split at blocked <;> cases blocked
  | _ => cases blocked

variable {Process : Type} [DecidableEq Process] {rank : DbFile → Nat} {body : Process → Body Unit}

/-- Processes that run a loop body each, for ever. -/
def loops (body : Process → Body Unit) : Machine Process (World Process) Op Op.Ret where
  exec := World.exec
  again process := some (body process)

def loopsStart (body : Process → Body Unit) : Threads Process (World Process) Op Op.Ret where
  shared := World.initial
  program := body

/-- The processes are where the lock protocol and the order of the waits admit them. -/
abbrev InOrder [Fintype Process] (rank : DbFile → Nat)
    (threads : Threads Process (World Process) Op Op.Ret) : Prop :=
  Machine.Follows (ordered rank) (fun _ _ _ => True) (fun phase => phase = .home) Safe threads

variable [Fintype Process] {threads now : Threads Process (World Process) Op Op.Ret}

theorem inOrder_of_reaches (waiting : ∀ process, Waiting rank .home .home (body process))
    (holds : InOrder rank now) (reached : (loops body).Reaches (fun _ _ => True) now threads) :
    InOrder rank threads := by
  refine Machine.follows_of_reaches ?_ ?_ holds reached
  · intro now phases process op rest answer next _ _ safe allows called
    exact ⟨trivial, Safe.exec safe (And.left allows) called⟩
  · rintro process restarted phase again rfl
    exact Option.some.inj again ▸ waiting process

omit [DecidableEq Process] in
theorem inOrder_start (waiting : ∀ process, Waiting rank .home .home (body process)) :
    InOrder rank (loopsStart body) :=
  ⟨fun _ => .home, safe_initial, waiting⟩

/-- Whenever a process waits, some process that is inside its loop body can go on. -/
theorem drains_of_waiting (waiting : ∀ process, Waiting rank .home .home (body process))
    (process : Process) : (loops body).Drains (InOrder rank) process := by
  intro now holds waits
  obtain ⟨phases, safe, obeys⟩ := holds
  by_contra nobody
  have party (other : Process) (op : Op) (rest : op.Ret → Body Unit)
      (running : now.program other = .call op rest) :
      ∃ file lockOp, Waits rank now.shared.lock (phases other).positions file lockOp := by
    have own := obeys other
    rw [running, obeys_call] at own
    cases called : World.exec other now.shared op with
    | none => exact waits_of_blocked own.1 called
    | some outcome =>
      obtain ⟨answer, state⟩ := outcome
      have calls : (loops body).Calls now
          ⟨state, Function.update now.program other (rest answer)⟩ :=
        ⟨other, op, rest, answer, state, running, called, rfl⟩
      obtain ⟨mover, moves⟩ := calls.step
      exact absurd ⟨_, calls, inOrder_of_reaches waiting ⟨phases, safe, obeys⟩
        (.single ⟨mover, trivial, moves⟩)⟩ nobody
  have stuck : Stuck rank now.shared.lock fun other => (phases other).positions := by
    intro other
    cases running : now.program other with
    | pure result =>
      have own := obeys other
      rw [running, obeys_pure] at own
      refine .inl fun file => ?_
      show (phases other).positions file = .outside
      rw [own]
      rfl
    | call op rest => exact .inr (party other op rest running)
  cases running : now.program process with
  | pure result =>
    rw [Machine.step, running] at waits
    cases waits
  | call op rest =>
    obtain ⟨file, lockOp, waits⟩ := party process op rest running
    exact stuck.not_waits safe.balanced (fun file => (safe.counts file).le) process file lockOp
      waits

/-- Processes that wait in one order do not wait for ever: from every reached state each of them can
be brought to its next step. -/
theorem exists_step_of_waiting (waiting : ∀ process, Waiting rank .home .home (body process))
    (reached : (loops body).Reaches (fun _ _ => True) (loopsStart body) threads)
    (process : Process) :
    ∃ later next, (loops body).Reaches (fun _ _ => True) threads later ∧
      (loops body).step later process = some next :=
  (drains_of_waiting waiting process).exists_step
    (inOrder_of_reaches waiting (inOrder_start waiting) reached)

/-- No process of `dsModel_All_Fix` waits for ever, whatever the commands of the processes are. -/
theorem exists_step_of_mainLoop (com : Process → Com)
    (reached : (machine com).Reaches (fun _ _ => True) (start com) threads) (process : Process) :
    ∃ later next, (machine com).Reaches (fun _ _ => True) threads later ∧
      (machine com).step later process = some next :=
  exists_step_of_waiting (fun other => waiting_mainLoop (com other)) reached process

/-- The reader waits for the writer and gets its step in the end. -/
theorem exists_step_of_mainLoop_readerAndWriter :
    ∃ threads, (machine readerAndWriter).runs (fun _ _ => True)
        (List.replicate 13 false ++ List.replicate 4 true ++ List.replicate 3 false)
        (start readerAndWriter) = some threads ∧
      ((machine readerAndWriter).step threads false).isNone = true ∧
      ∃ later next, (machine readerAndWriter).Reaches (fun _ _ => True) threads later ∧
        (machine readerAndWriter).step later false = some next := by
  have ran : ((machine readerAndWriter).runs (fun _ _ => True)
      (List.replicate 13 false ++ List.replicate 4 true ++ List.replicate 3 false)
      (start readerAndWriter)).map (fun threads =>
        ((machine readerAndWriter).step threads false).isNone) = some true := by
    decide
  obtain ⟨threads, ran, waits⟩ := Option.map_eq_some_iff.mp ran
  exact ⟨threads, ran, waits,
    exists_step_of_mainLoop readerAndWriter (Machine.reaches_of_runs ran) false⟩

end Progress

/-! ### The scenario -/

/-- `dl_compOrder`, whose command is always the same. -/
def dlCompOrder (com : Com) : Body Unit :=
  mainLoop { com with command := "[COMPLETE_ORDER]".toList }

/-- `dl_compOrderNU`. It differs in the order in which the branch of its command waits. -/
def dlCompOrderNU (com : Com) : Body Unit :=
  if com.valid then do
    waitAll [.CustomerOrder, .BillingInfo, .ProductInfo]
    useAll [readProductInfo, readBillingInfo, readCustomerOrderInfo, writeProductInfo,
      writeBillingInfo, writeCustomerOrderInfo]
    postAll [.ProductInfo, .BillingInfo, .CustomerOrder]
  else return ()

inductive Program where
  | compOrder
  | compOrderNU

def Program.body (com : Com) : Program → Body Unit
  | .compOrder => dlCompOrder com
  | .compOrderNU => dlCompOrderNU com

/-- The loop bodies of a set of processes. -/
def scenario {Process : Type} (program : Process → Program) (com : Process → Com)
    (process : Process) : Body Unit :=
  (program process).body (com process)

theorem dlCompOrder_eq (com : Com) :
    dlCompOrder com = if com.valid then
      writer [.ProductInfo, .BillingInfo, .CustomerOrder]
        [readProductInfo, readBillingInfo, readCustomerOrderInfo, writeProductInfo,
          writeBillingInfo, writeCustomerOrderInfo]
    else return () := rfl

/-- A process whose order is invalid does nothing. -/
theorem body_invalid {com : Com} (invalid : ¬com.valid = true) (program : Program) :
    program.body com = .pure () := by
  cases program with
  | compOrder => exact (dlCompOrder_eq com).trans (if_neg invalid)
  | compOrderNU => exact if_neg invalid

/-- The second program waits in the opposite order. -/
theorem waiting_dlCompOrderNU (com : Com) :
    Waiting (fun file => 4 - Concurrency.rank file) .home .home (dlCompOrderNU com) := by
  rw [dlCompOrderNU]
  split
  · exact waiting_writer (by decide) (by decide) (by decide)
  · rfl

section Scenario

variable {Process : Type} [DecidableEq Process]

/-- However the processes go on, a process does not get its next step. -/
def WaitsForEver (body : Process → Body Unit) (threads : Threads Process (World Process) Op Op.Ret)
    (process : Process) : Prop :=
  ∀ later, (loops body).Reaches (fun _ _ => True) threads later →
    (loops body).step later process = none

variable {body : Process → Body Unit} {threads next : Threads Process (World Process) Op Op.Ret}
variable {process : Process} {file : DbFile}

/-- A process takes a semaphore that is free. -/
theorem step_of_free {files : List DbFile} {rest : Unit → Body Unit}
    (running : threads.program process = (waitAll (file :: files) >>= rest))
    (free : threads.shared.values (.wrt file) = 1) :
    (loops body).step threads process = some ⟨threads.shared.setValue (.wrt file) 0,
      Function.update threads.program process (waitAll files >>= rest)⟩ := by
  have taken : World.exec process threads.shared (.semWait (.wrt file)) =
      some ((), threads.shared.setValue (.wrt file) 0) := by
    rw [World.exec, free, if_neg Nat.one_ne_zero]
  have calls : (waitAll (file :: files) >>= rest) =
      .call (.semWait (.wrt file)) fun _ => waitAll files >>= rest := rfl
  simp only [Machine.step, running, calls, loops, taken, Option.map_some]

/-- A process waits for a semaphore that is taken. -/
theorem step_of_taken {rest : Unit → Body Unit}
    (running : threads.program process = .call (.semWait (.wrt file)) rest)
    (taken : threads.shared.values (.wrt file) = 0) :
    (loops body).step threads process = none := by
  have waits : World.exec process threads.shared (.semWait (.wrt file)) = none := if_pos taken
  simp only [Machine.step, running, loops, waits, Option.map_none]

/-- All three semaphores are taken, and the two processes that have taken them wait for each
other. The other processes are where they have started. -/
structure Deadlocked (body : Process → Body Unit) (first second : Process)
    (threads : Threads Process (World Process) Op Op.Ret) : Prop where
  taken : ∀ file ∈ [DbFile.ProductInfo, .BillingInfo, .CustomerOrder],
    threads.shared.values (.wrt file) = 0
  waitsForOrder : ∃ rest, threads.program first = .call (.semWait (.wrt .CustomerOrder)) rest
  waitsForBilling : ∃ rest, threads.program second = .call (.semWait (.wrt .BillingInfo)) rest
  others : ∀ other, other ≠ first → other ≠ second → threads.program other = body other

variable {program : Process → Program} {com : Process → Com} {first second : Process}

/-- A program of the scenario starts with a wait for one of the three semaphores, if its order is
valid. -/
theorem body_cases (program : Program) (com : Com) :
    program.body com = .pure () ∨ ∃ file ∈ [DbFile.ProductInfo, .BillingInfo, .CustomerOrder],
      ∃ rest, program.body com = .call (.semWait (.wrt file)) rest := by
  by_cases valid : com.valid = true
  · cases program with
    | compOrder =>
      exact .inr ⟨.ProductInfo, by decide, _, (dlCompOrder_eq com).trans (if_pos valid)⟩
    | compOrderNU => exact .inr ⟨.CustomerOrder, by decide, _, if_pos valid⟩
  · exact .inl (body_invalid valid program)

/-- Only a process whose order is invalid moves, and it changes nothing. -/
theorem Deadlocked.of_step (locked : Deadlocked (scenario program com) first second threads)
    (steps : (loops (scenario program com)).step threads process = some next) :
    Deadlocked (scenario program com) first second next := by
  have waits {file : DbFile} {rest : Unit → Body Unit}
      (member : file ∈ [DbFile.ProductInfo, .BillingInfo, .CustomerOrder])
      (running : threads.program process = .call (.semWait (.wrt file)) rest) : False := by
    rw [step_of_taken running (locked.taken file member)] at steps
    cases steps
  by_cases isFirst : process = first
  · obtain ⟨rest, running⟩ := locked.waitsForOrder
    exact (waits (by decide) (isFirst ▸ running)).elim
  · by_cases isSecond : process = second
    · obtain ⟨rest, running⟩ := locked.waitsForBilling
      exact (waits (by decide) (isSecond ▸ running)).elim
    · have own := locked.others process isFirst isSecond
      rcases body_cases (program process) (com process) with idle | ⟨file, member, rest, starts⟩
      · have idles : scenario program com process = .pure () := idle
        have stays : Function.update threads.program process (.pure ()) = threads.program := by
          rw [← idles, ← own, Function.update_eq_self]
        rw [Machine.step, own, idles] at steps
        obtain rfl : ⟨threads.shared, Function.update threads.program process
            (scenario program com process)⟩ = next := Option.some.inj steps
        rwa [idles, stays]
      · exact (waits member (own.trans starts)).elim

theorem Deadlocked.waitsForEver (locked : Deadlocked (scenario program com) first second threads) :
    WaitsForEver (scenario program com) threads first := by
  intro later reached
  have still : Deadlocked (scenario program com) first second later := by
    induction reached with
    | refl => exact locked
    | tail _ steps inductionHypothesis =>
      obtain ⟨process, -, steps⟩ := steps
      exact inductionHypothesis.of_step steps
  obtain ⟨rest, running⟩ := still.waitsForOrder
  exact step_of_taken running (still.taken _ (by decide))

/-- The two programs deadlock after three steps. -/
theorem exists_deadlocked (one : program first = .compOrder) (two : program second = .compOrderNU)
    (valid : (com first).valid = true) (also : (com second).valid = true) :
    ∃ threads, (loops (scenario program com)).Reaches (fun _ _ => True)
        (loopsStart (scenario program com)) threads ∧
      Deadlocked (scenario program com) first second threads := by
  have different : second ≠ first := by
    rintro rfl
    cases one.symm.trans two
  obtain ⟨rest, own⟩ : ∃ rest, scenario program com first =
      (waitAll [.ProductInfo, .BillingInfo, .CustomerOrder] >>= rest) :=
    ⟨_, by rw [scenario, one]; exact (dlCompOrder_eq _).trans (if_pos valid)⟩
  obtain ⟨rest', own'⟩ : ∃ rest', scenario program com second =
      (waitAll [.CustomerOrder, .BillingInfo, .ProductInfo] >>= rest') :=
    ⟨_, by rw [scenario, two]; exact if_pos also⟩
  have started : (loopsStart (scenario program com)).program first =
      (waitAll [.ProductInfo, .BillingInfo, .CustomerOrder] >>= rest) := own
  have meets : Function.update (scenario program com) first
      (waitAll [.BillingInfo, .CustomerOrder] >>= rest) second =
        (waitAll [.CustomerOrder, .BillingInfo, .ProductInfo] >>= rest') := by
    rw [Function.update_of_ne different, own']
  have goesOn : Function.update (Function.update (scenario program com) first
      (waitAll [.BillingInfo, .CustomerOrder] >>= rest)) second
        (waitAll [.BillingInfo, .ProductInfo] >>= rest') first =
          (waitAll [.BillingInfo, .CustomerOrder] >>= rest) := by
    rw [Function.update_of_ne different.symm, Function.update_self]
  refine ⟨_, .tail (.tail (.single ⟨first, trivial, step_of_free started rfl⟩)
    ⟨second, trivial, step_of_free meets rfl⟩) ⟨first, trivial, step_of_free goesOn rfl⟩, ?_⟩
  refine ⟨List.forall_mem_cons.mpr ⟨rfl, List.forall_mem_cons.mpr
    ⟨rfl, List.forall_mem_singleton.mpr rfl⟩⟩, ⟨fun _ => waitAll [] >>= rest, ?_⟩,
      ⟨fun _ => waitAll [.ProductInfo] >>= rest', ?_⟩, fun other notFirst notSecond => ?_⟩
  · exact Function.update_self _ _ _
  · exact (Function.update_of_ne different _ _).trans (Function.update_self _ _ _)
  · exact (Function.update_of_ne notFirst _ _).trans
      ((Function.update_of_ne notSecond _ _).trans (Function.update_of_ne notFirst _ _))

omit [DecidableEq Process] in
/-- Without one of the programs, all processes wait in one order. -/
theorem exists_waiting_of_missing
    (missing : ¬((∃ first, program first = .compOrder ∧ (com first).valid = true) ∧
      ∃ second, program second = .compOrderNU ∧ (com second).valid = true)) :
    ∃ rank, ∀ process, Waiting rank .home .home (scenario program com process) := by
  have idles {rank : DbFile → Nat} {process : Process} (invalid : ¬(com process).valid = true) :
      Waiting rank .home .home (scenario program com process) := by
    rw [scenario, body_invalid invalid]
    rfl
  by_cases inOrder : ∃ first, program first = .compOrder ∧ (com first).valid = true
  · refine ⟨Concurrency.rank, fun process => ?_⟩
    cases same : program process with
    | compOrder =>
      rw [scenario, same]
      exact waiting_mainLoop { com process with command := "[COMPLETE_ORDER]".toList }
    | compOrderNU => exact idles fun valid => missing ⟨inOrder, process, same, valid⟩
  · refine ⟨fun file => 4 - Concurrency.rank file, fun process => ?_⟩
    cases same : program process with
    | compOrder => exact idles fun valid => inOrder ⟨process, same, valid⟩
    | compOrderNU =>
      rw [scenario, same]
      exact waiting_dlCompOrderNU (com process)

variable [Fintype Process]

/-- A set of processes of the scenario can deadlock exactly when it has both programs, each with a
valid order. -/
theorem exists_waitsForEver_iff (program : Process → Program) (com : Process → Com) :
    (∃ threads process, (loops (scenario program com)).Reaches (fun _ _ => True)
        (loopsStart (scenario program com)) threads ∧
      WaitsForEver (scenario program com) threads process) ↔
    (∃ first, program first = .compOrder ∧ (com first).valid = true) ∧
      ∃ second, program second = .compOrderNU ∧ (com second).valid = true := by
  constructor
  · rintro ⟨threads, process, reached, waits⟩
    by_contra missing
    obtain ⟨rank, waiting⟩ := exists_waiting_of_missing missing
    obtain ⟨later, next, goes, steps⟩ := exists_step_of_waiting waiting reached process
    exact Option.some_ne_none next (steps.symm.trans (waits later goes))
  · rintro ⟨⟨first, one, valid⟩, second, two, also⟩
    obtain ⟨threads, reached, locked⟩ := exists_deadlocked one two valid also
    exact ⟨threads, first, reached, locked.waitsForEver⟩

end Scenario

end OnlineStore.LockingModel
