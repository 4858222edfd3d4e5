/-
This file says how the requests that change the tables use the files: the registrations, the new
products, the orders, the returns and the edits. Such a request takes the semaphores for writing
of some files and posts none of them before it has taken all. It writes these files only, each of
them at most once, and CustomerInfo before the others. An order reads CustomerInfo without its
semaphore, but only once, and after it has taken the semaphores that it takes.

So there is a call with which a request is settled: the reading of CustomerInfo without its
semaphore, or else the first truncation, or else the first semaphore that it posts. Up to there it
has changed nothing, and from there on it uses only the files that it holds. What a settled
request still does is the same on all files that agree on those (`effect_local`), and it leaves
the files that it has written already as they are (`effect_frame`).
-/

import OnlineStore.Sequential

namespace OnlineStore.Updates

open CString Cells Prog

/-! ### The effect on the files -/

/-- What a request that runs alone gets for an answer when it calls something else than a file. -/
def sysAnswer (now : Nat) : (op : SysOp) → Option op.Ret
  | .semWait _ => some ()
  | .semPost _ => some ()
  | .count _ _ => some ()
  | .counter _ => some (0 : Int)
  | .writeSocket _ => some ()
  | .time => some now
  | .delete _ => some ()
  | .crash => none
  | .spin => none

def diskAnswer (now : Nat) (files : Files) : (op : DiskOp) → Option op.Ret
  | .sys op => sysAnswer now op
  | .read file => some (some (files file))
  | .truncate _ => some ()
  | .write _ _ => some ()

/-- What a call has read from the clock. -/
def drawnBy : (op : DiskOp) → op.Ret → Option Nat
  | .sys .time, now => some now
  | _, _ => none

/-- The files after a call. -/
def changed (files : Files) : DiskOp → Files
  | .truncate file => Function.update files file []
  | .write file text => Function.update files file text
  | _ => files

/-- The files that a program leaves when it runs alone. -/
def effect (now : Nat) : DiskProg Unit → Files → Option Files
  | .pure _, files => some files
  | .call op rest, files =>
    (diskAnswer now files op).bind fun answer => effect now (rest answer) (changed files op)

/-- The effect of a request is what `serveOnDisk` makes of the files. -/
theorem serveOnDisk_store (rand : Rand) (now : Nat) (message : Text) (world : World Files) :
    (serveOnDisk rand now message world).map World.store =
      effect now (onDisk (executeTaskOnServer rand message)) world.store := by
  rw [serveOnDisk, Option.map_map]
  generalize onDisk (executeTaskOnServer rand message) = program
  induction program generalizing world with
  | pure result => rfl
  | call op rest inductionHypothesis =>
    rw [run_call, Option.map_bind, effect]
    cases op with
    | sys op => cases op <;> first | exact inductionHypothesis _ _ | rfl
    | read file => exact inductionHypothesis _ _
    | truncate file => exact inductionHypothesis _ _
    | write file text => exact inductionHypothesis _ _

/-- A call changes a file to the same text if the text was the same. -/
theorem changed_congr {files files' : Files} (op : DiskOp) {file : DbFile}
    (same : files' file = files file) : changed files' op file = changed files op file := by
  cases op with
  | sys op => exact same
  | read other => exact same
  | truncate other =>
    by_cases own : file = other
    · rw [own, changed, changed, Function.update_self, Function.update_self]
    · rw [changed, changed, Function.update_of_ne own, Function.update_of_ne own, same]
  | write other text =>
    by_cases own : file = other
    · rw [own, changed, changed, Function.update_self, Function.update_self]
    · rw [changed, changed, Function.update_of_ne own, Function.update_of_ne own, same]

/-! ### How far a request is -/

/-- How far a request is: the semaphores for writing that it holds, whether it is settled, the
files that it may truncate from then on, the file that it has truncated and not written yet, and
whether it has drawn an id. -/
structure Stage where
  held : List DbFile
  settled : Bool
  unwritten : List DbFile
  truncated : Option DbFile
  drawn : Bool

namespace Stage

def start : Stage := ⟨[], false, [], none, false⟩

/-- Between two requests. -/
def idle : Stage := ⟨[], true, [], none, true⟩

def wait (stage : Stage) (file : DbFile) : Stage :=
  { stage with held := file :: stage.held }

def post (stage : Stage) (file : DbFile) : Stage :=
  { stage with
    held := stage.held.filter fun other => other ≠ file
    settled := true
    unwritten := [] }

def draw (stage : Stage) : Stage :=
  { stage with drawn := true }

def read (stage : Stage) (file : DbFile) : Stage :=
  if file ∈ stage.held then stage
  else { stage with settled := true, unwritten := stage.held }

def truncate (stage : Stage) (file : DbFile) : Stage :=
  { stage with
    settled := true
    unwritten := (if stage.settled then stage.unwritten else stage.held).filter
      fun other => other ≠ file
    truncated := some file }

def write (stage : Stage) : Stage :=
  { stage with truncated := none }

/-- Only CustomerInfo is read without its semaphore. -/
def MayRead (stage : Stage) (file : DbFile) : Prop :=
  file ∈ stage.held ∨ stage.settled = false ∧ file = .CustomerInfo

/-- No file is truncated twice, and CustomerInfo is the first. -/
def MayTruncate (stage : Stage) (file : DbFile) : Prop :=
  file ∈ stage.held ∧
    if stage.settled then file ∈ stage.unwritten ∧ file ≠ .CustomerInfo
    else .CustomerInfo ∈ stage.held → file = .CustomerInfo

def SysMayCall (stage : Stage) : SysOp → Prop
  | .semWait (.wrt file) => stage.settled = false ∧ file ∉ stage.held
  | .semPost (.wrt file) => file ∈ stage.held
  | .writeSocket _ => True
  | .time => stage.drawn = false
  | .crash => True
  | _ => False

def sysNext (stage : Stage) : SysOp → Stage
  | .semWait (.wrt file) => stage.wait file
  | .semPost (.wrt file) => stage.post file
  | .time => stage.draw
  | _ => stage

theorem read_held (stage : Stage) (file : DbFile) : (stage.read file).held = stage.held := by
  rw [read]
  split_ifs <;> rfl

theorem read_drawn (stage : Stage) (file : DbFile) : (stage.read file).drawn = stage.drawn := by
  rw [read]
  split_ifs <;> rfl

theorem read_truncated (stage : Stage) (file : DbFile) :
    (stage.read file).truncated = stage.truncated := by
  rw [read]
  split_ifs <;> rfl

theorem sysNext_truncated (stage : Stage) (op : SysOp) :
    (stage.sysNext op).truncated = stage.truncated := by
  cases op with
  | semWait semaphore => cases semaphore <;> rfl
  | semPost semaphore => cases semaphore <;> rfl
  | _ => rfl

/-- A file that the request may still change. -/
def MayChange (stage : Stage) (file : DbFile) : Prop :=
  file ∈ stage.held ∧
    (stage.truncated = some file ∨ file ∈ stage.unwritten ∧ file ≠ .CustomerInfo)

/-- The request is through. -/
def Done (stage : Stage) : Prop :=
  stage.held = [] ∧ stage.truncated = none

instance (stage : Stage) (file : DbFile) : Decidable (stage.MayRead file) :=
  inferInstanceAs (Decidable (_ ∨ _))

instance (stage : Stage) (file : DbFile) : Decidable (stage.MayTruncate file) :=
  inferInstanceAs (Decidable (file ∈ stage.held ∧
    if stage.settled then file ∈ stage.unwritten ∧ file ≠ .CustomerInfo
    else .CustomerInfo ∈ stage.held → file = .CustomerInfo))

instance (stage : Stage) : Decidable stage.Done :=
  inferInstanceAs (Decidable (_ ∧ _))

end Stage

/-- The protocol of the handlers. -/
def tableUpdates : Protocol TableOp TableOp.Ret Stage where
  allows
    | stage, .sys op => stage.truncated = none ∧ stage.SysMayCall op
    | stage, .load file => stage.truncated = none ∧ stage.MayRead file
    | stage, .writeBack file _ => stage.truncated = none ∧ stage.MayTruncate file
  next
    | stage, .sys op, _ => stage.sysNext op
    | stage, .load file, _ => stage.read file
    | stage, .writeBack file _, _ => (stage.truncate file).write

/-- The protocol of the disk level. -/
def diskUpdates : Protocol DiskOp DiskOp.Ret Stage where
  allows
    | stage, .sys op => stage.truncated = none ∧ stage.SysMayCall op
    | stage, .read file => stage.truncated = none ∧ stage.MayRead file
    | stage, .truncate file => stage.truncated = none ∧ stage.MayTruncate file
    | stage, .write file _ => stage.truncated = some file ∧ file ∈ stage.held
  next
    | stage, .sys op, _ => stage.sysNext op
    | stage, .read file, _ => stage.read file
    | stage, .truncate file, _ => stage.truncate file
    | stage, .write _ _, _ => stage.write

/-- Whatever its calls answer, a program on the disk gets a request through from a stage on. -/
abbrev Finishes (stage : Stage) (program : DiskProg Unit) : Prop :=
  Obeys diskUpdates (fun _ _ _ => True) (fun _ stage => stage.Done) stage program

/-! ### What a settled request does -/

section Settled

variable {now : Nat} {stage : Stage} {op : DiskOp} {file : DbFile} {files files' final : Files}
variable {program : DiskProg Unit}

theorem Stage.settled_next (settled : stage.settled = true) (answer : op.Ret) :
    (diskUpdates.next stage op answer).settled = true := by
  cases op with
  | sys op => cases op with
    | semWait semaphore => cases semaphore <;> exact settled
    | semPost semaphore => cases semaphore <;> first | exact settled | rfl
    | _ => exact settled
  | read other =>
    show (stage.read other).settled = true
    rw [Stage.read]
    split_ifs
    · exact settled
    · rfl
  | truncate other => rfl
  | write other text => exact settled

/-- A settled request takes no more semaphores. -/
theorem Stage.held_of_next (settled : stage.settled = true) (allowed : diskUpdates.allows stage op)
    (answer : op.Ret) (held : file ∈ (diskUpdates.next stage op answer).held) :
    file ∈ stage.held := by
  cases op with
  | sys op => cases op with
    | semWait semaphore => cases semaphore with
      | wrt other => exact absurd allowed.2.1 (by simp [settled])
      | mutex other => exact held
    | semPost semaphore => cases semaphore with
      | wrt other => exact List.mem_of_mem_filter held
      | mutex other => exact held
    | _ => exact held
  | read other =>
    have inside : other ∈ stage.held := allowed.2.resolve_right (by simp [settled])
    have same : diskUpdates.next stage (.read other) answer = stage := if_pos inside
    rwa [same] at held
  | truncate other => exact held
  | write other text => exact held

/-- What a settled request may change gets less. -/
theorem Stage.mayChange_of_next (settled : stage.settled = true)
    (allowed : diskUpdates.allows stage op) (answer : op.Ret)
    (may : (diskUpdates.next stage op answer).MayChange file) : stage.MayChange file := by
  refine ⟨Stage.held_of_next settled allowed answer may.1, ?_⟩
  cases op with
  | sys op => cases op with
    | semWait semaphore => cases semaphore <;> exact may.2
    | semPost semaphore => cases semaphore with
      | wrt other => exact may.2.imp id fun more => absurd more.1 List.not_mem_nil
      | mutex other => exact may.2
    | _ => exact may.2
  | read other =>
    have inside : other ∈ stage.held := allowed.2.resolve_right (by simp [settled])
    have same : diskUpdates.next stage (.read other) answer = stage := if_pos inside
    rw [same] at may
    exact may.2
  | truncate other =>
    obtain ⟨-, -, order⟩ := allowed
    rw [if_pos settled] at order
    refine .inr ?_
    rcases may.2 with own | ⟨more, different⟩
    · obtain rfl := Option.some.inj own
      exact order
    · have unwritten := List.mem_of_mem_filter more
      rw [if_pos settled] at unwritten
      exact ⟨unwritten, different⟩
  | write other text => exact may.2.imp nofun id

/-- Only files that are held are changed. -/
theorem changed_of_not_held (allowed : diskUpdates.allows stage op)
    (outside : file ∉ stage.held) : changed files op file = files file := by
  cases op with
  | sys op => rfl
  | read other => rfl
  | truncate other =>
    refine Function.update_of_ne ?_ ..
    rintro rfl
    exact outside allowed.2.1
  | write other text =>
    refine Function.update_of_ne ?_ ..
    rintro rfl
    exact outside allowed.2

theorem changed_of_not_mayChange (settled : stage.settled = true)
    (allowed : diskUpdates.allows stage op) (kept : ¬stage.MayChange file) :
    changed files op file = files file := by
  cases op with
  | sys op => rfl
  | read other => rfl
  | truncate other =>
    obtain ⟨-, held, order⟩ := allowed
    rw [if_pos settled] at order
    refine Function.update_of_ne ?_ ..
    rintro rfl
    exact kept ⟨held, .inr order⟩
  | write other text =>
    refine Function.update_of_ne ?_ ..
    rintro rfl
    exact kept ⟨allowed.2, .inl allowed.1⟩

/-- A settled request leaves the files that it may not change as they are. -/
theorem effect_frame (finishes : Finishes stage program) (settled : stage.settled = true)
    (ends : effect now program files = some final) (kept : ¬stage.MayChange file) :
    final file = files file := by
  induction program generalizing stage files with
  | pure result =>
    obtain rfl := Option.some.inj ends
    rfl
  | call op rest inductionHypothesis =>
    obtain ⟨answer, -, ends⟩ := Option.bind_eq_some_iff.mp ends
    have later := inductionHypothesis answer (finishes.2 answer trivial)
      (Stage.settled_next settled answer) ends
      fun may => kept (Stage.mayChange_of_next settled finishes.1 answer may)
    rw [later, changed_of_not_mayChange settled finishes.1 kept]

/-- A request reads no more than what it holds once it is settled. -/
theorem diskAnswer_congr (settled : stage.settled = true) (allowed : diskUpdates.allows stage op)
    (same : ∀ file ∈ stage.held, files' file = files file) :
    diskAnswer now files' op = diskAnswer now files op := by
  cases op with
  | sys op => rfl
  | read other =>
    have inside : other ∈ stage.held := allowed.2.resolve_right (by simp [settled])
    rw [diskAnswer, diskAnswer, same other inside]
  | truncate other => rfl
  | write other text => rfl

/-- What a settled request does to the files that it holds depends on these files only. -/
theorem effect_local (finishes : Finishes stage program) (settled : stage.settled = true)
    (same : ∀ file ∈ stage.held, files' file = files file)
    (ends : effect now program files = some final) :
    ∃ final', effect now program files' = some final' ∧
      ∀ file ∈ stage.held, final' file = final file := by
  induction program generalizing stage files files' with
  | pure result =>
    obtain rfl := Option.some.inj ends
    exact ⟨files', rfl, same⟩
  | call op rest inductionHypothesis =>
    obtain ⟨answer, answered, ends⟩ := Option.bind_eq_some_iff.mp ends
    have still := Stage.settled_next settled answer
    have follows := finishes.2 answer trivial
    have later : ∀ file ∈ (diskUpdates.next stage op answer).held,
        changed files' op file = changed files op file := fun file held =>
      changed_congr op (same file (Stage.held_of_next settled finishes.1 answer held))
    obtain ⟨final', ends', agree⟩ := inductionHypothesis answer follows still later ends
    refine ⟨final', ?_, fun file held => ?_⟩
    · rw [effect, diskAnswer_congr settled finishes.1 same, answered]
      exact ends'
    · by_cases kept : file ∈ (diskUpdates.next stage op answer).held
      · exact agree file kept
      · rw [effect_frame follows still ends' fun may => kept may.1,
          effect_frame follows still ends fun may => kept may.1]
        exact changed_congr op (same file held)

end Settled

/-! ### Before a request is settled -/

section Unsettled

variable {stage : Stage} {op : DiskOp} {file : DbFile} {files : Files}

/-- Only a settled request has a file truncated, and one that it holds. -/
theorem Stage.settled_of_truncated (allowed : diskUpdates.allows stage op) (answer : op.Ret)
    (own : (diskUpdates.next stage op answer).truncated = some file) :
    (diskUpdates.next stage op answer).settled = true ∧
      file ∈ (diskUpdates.next stage op answer).held := by
  cases op with
  | sys op => cases allowed.1.symm.trans ((stage.sysNext_truncated op).symm.trans own)
  | read other => cases allowed.1.symm.trans ((stage.read_truncated other).symm.trans own)
  | truncate other =>
    obtain rfl := Option.some.inj own
    exact ⟨rfl, allowed.2.1⟩
  | write other text => cases own

/-- A request that is not settled by a call has not changed a file with it. -/
theorem changed_of_unsettled (allowed : diskUpdates.allows stage op)
    (settles : stage.truncated ≠ none → stage.settled = true) (answer : op.Ret)
    (unsettled : (diskUpdates.next stage op answer).settled = false) :
    changed files op = files := by
  cases op with
  | sys op => rfl
  | read other => rfl
  | truncate other => cases unsettled
  | write other text =>
    have settled := settles (by rw [allowed.1]; exact Option.some_ne_none _)
    cases settled.symm.trans unsettled

theorem Stage.held_of_unsettled_read (unsettled : (stage.read file).settled = false) :
    file ∈ stage.held := by
  by_contra outside
  rw [Stage.read, if_neg outside] at unsettled
  cases unsettled

/-- It keeps what it holds. -/
theorem Stage.held_next_of_unsettled (answer : op.Ret)
    (unsettled : (diskUpdates.next stage op answer).settled = false) (held : file ∈ stage.held) :
    file ∈ (diskUpdates.next stage op answer).held := by
  cases op with
  | sys op => cases op with
    | semWait semaphore => cases semaphore with
      | wrt other => exact List.mem_cons_of_mem _ held
      | mutex other => exact held
    | semPost semaphore => cases semaphore with
      | wrt other => cases unsettled
      | mutex other => exact held
    | _ => exact held
  | read other =>
    have same : diskUpdates.next stage (.read other) answer = stage :=
      if_pos (Stage.held_of_unsettled_read unsettled)
    rwa [same]
  | truncate other => exact held
  | write other text => exact held

/-- The call that settles a request takes no semaphore. -/
theorem Stage.held_of_settled_next (answer : op.Ret) (unsettled : stage.settled = false)
    (settled : (diskUpdates.next stage op answer).settled = true)
    (held : file ∈ (diskUpdates.next stage op answer).held) : file ∈ stage.held := by
  cases op with
  | sys op => cases op with
    | semWait semaphore => cases semaphore with
      | wrt other => cases unsettled.symm.trans settled
      | mutex other => exact held
    | semPost semaphore => cases semaphore with
      | wrt other => exact List.mem_of_mem_filter held
      | mutex other => exact held
    | _ => exact held
  | read other => exact stage.read_held other ▸ held
  | truncate other => exact held
  | write other text => exact held

theorem Stage.undrawn_of_next {answer : op.Ret}
    (undrawn : (diskUpdates.next stage op answer).drawn = false) :
    stage.drawn = false ∧ drawnBy op answer = none := by
  cases op with
  | sys op => cases op with
    | semWait semaphore => cases semaphore <;> exact ⟨undrawn, rfl⟩
    | semPost semaphore => cases semaphore <;> exact ⟨undrawn, rfl⟩
    | time => cases undrawn
    | _ => exact ⟨undrawn, rfl⟩
  | read other => exact ⟨(stage.read_drawn other).symm.trans undrawn, rfl⟩
  | _ => exact ⟨undrawn, rfl⟩

end Unsettled

/-! ### The handlers -/

/-- From a stage the handler follows the protocol and ends in another stage. -/
abbrev Leads {Result : Type} (stage last : Stage) (handler : Handler Result) : Prop :=
  Obeys tableUpdates (fun _ _ _ => True) (fun _ stage => stage = last) stage handler

/-- From a stage the handler gets the request through. -/
abbrev LeadsOut (stage : Stage) (handler : Handler Unit) : Prop :=
  Obeys tableUpdates (fun _ _ _ => True) (fun _ stage => stage.Done) stage handler

section Rules

variable {stage middle last : Stage} {Result Outcome : Type}

theorem Leads.bind {handler : Handler Result} {next : Result → Handler Outcome}
    (first : Leads stage middle handler) (second : ∀ result, Leads middle last (next result)) :
    Leads stage last (handler >>= next) := by
  refine Obeys.bind first ?_
  rintro result _ rfl
  exact second result

theorem Leads.followed {handler : Handler Result} {next : Result → Handler Unit}
    (first : Leads stage middle handler) (second : ∀ result, LeadsOut middle (next result)) :
    LeadsOut stage (handler >>= next) := by
  refine Obeys.bind first ?_
  rintro result _ rfl
  exact second result

theorem Leads.out {handler : Handler Unit} (leads : Leads stage last handler) (done : last.Done) :
    LeadsOut stage handler :=
  leads.mono fun _ _ same => same ▸ done

theorem leads_pure {result : Result} : Leads stage stage (.pure result) := rfl

theorem leads_semWait (file : DbFile) (whole : stage.truncated = none)
    (waits : stage.settled = false ∧ file ∉ stage.held) :
    Leads stage (stage.wait file) (semWait (.wrt file)) :=
  obeys_call.mpr ⟨⟨whole, waits⟩, fun _ _ => rfl⟩

theorem leads_semPost (file : DbFile) (whole : stage.truncated = none)
    (held : file ∈ stage.held) : Leads stage (stage.post file) (semPost (.wrt file)) :=
  obeys_call.mpr ⟨⟨whole, held⟩, fun _ _ => rfl⟩

theorem leads_loadTable (file : DbFile) (whole : stage.truncated = none)
    (may : stage.MayRead file) : Leads stage (stage.read file) (loadTable file) :=
  obeys_call.mpr ⟨⟨whole, may⟩, fun _ _ => rfl⟩

theorem leads_writeBack (file : DbFile) {table : List file.Row} (whole : stage.truncated = none)
    (may : stage.MayTruncate file) :
    Leads stage (stage.truncate file).write (writeBack file table) :=
  obeys_call.mpr ⟨⟨whole, may⟩, fun _ _ => rfl⟩

theorem leads_writeSocket {text : Text} (whole : stage.truncated = none) :
    Leads stage stage (writeSocket text) :=
  obeys_call.mpr ⟨⟨whole, trivial⟩, fun _ _ => rfl⟩

theorem leads_generateUID {rand : Rand} (whole : stage.truncated = none)
    (undrawn : stage.drawn = false) : Leads stage stage.draw (generateUID rand) :=
  obeys_call.mpr ⟨⟨whole, undrawn⟩, fun _ _ => rfl⟩

theorem leads_orCrash {value : Option Result} (whole : stage.truncated = none) :
    Leads stage stage (orCrash value) := by
  cases value with
  | none => exact obeys_call.mpr ⟨⟨whole, trivial⟩, fun answer => answer.elim⟩
  | some value => exact rfl

/-- The end of a request that holds one semaphore. -/
theorem leadsOut_writeBack_semPost (file : DbFile) {drawn : Bool} {table : List file.Row} :
    LeadsOut ⟨[file], false, [], none, drawn⟩ (do
      writeBack file table
      semPost (.wrt file)) := by
  refine (leads_writeBack file rfl ?_).followed fun _ => (leads_semPost file rfl ?_).out ?_
  · exact ⟨List.mem_singleton_self file, fun held => (List.mem_singleton.mp held).symm⟩
  · exact List.mem_singleton_self file
  · cases file <;> exact ⟨rfl, rfl⟩

theorem leadsOut_orCrash_bind {value : Option Result} {next : Result → Handler Unit}
    (whole : stage.truncated = none)
    (follows : ∀ result, value = some result → LeadsOut stage (next result)) :
    LeadsOut stage (orCrash value >>= next) := by
  cases value with
  | none => exact obeys_call.mpr ⟨⟨whole, trivial⟩, fun answer => answer.elim⟩
  | some result => exact follows result rfl

end Rules

section Handlers

variable (rand : Rand) (buffer : Text)

theorem leadsOut_writeNewClientData : LeadsOut .start (writeNewClientData rand buffer) := by
  refine (leads_orCrash rfl).followed fun decoded =>
    (leads_generateUID rfl rfl).followed fun uuid => ?_
  obtain ⟨clientType, data⟩ := decoded
  cases clientType with
  | buyer =>
    exact (leads_semWait .CustomerInfo rfl (by decide)).followed fun _ =>
      (leads_loadTable .CustomerInfo rfl (by decide)).followed fun _ =>
        (leads_orCrash rfl).followed fun _ => (leads_writeSocket rfl).followed fun _ =>
          leadsOut_writeBack_semPost .CustomerInfo
  | seller =>
    exact (leads_semWait .SellerInfo rfl (by decide)).followed fun _ =>
      (leads_loadTable .SellerInfo rfl (by decide)).followed fun _ =>
        (leads_orCrash rfl).followed fun _ => (leads_writeSocket rfl).followed fun _ =>
          leadsOut_writeBack_semPost .SellerInfo

theorem leadsOut_addNewProduct : LeadsOut .start (addNewProduct rand buffer) :=
  (leads_semWait .ProductInfo rfl (by decide)).followed fun _ =>
    (leads_loadTable .ProductInfo rfl (by decide)).followed fun _ =>
      (leads_generateUID rfl rfl).followed fun _ => (leads_orCrash rfl).followed fun _ =>
        (leads_writeBack .ProductInfo rfl (by decide)).followed fun _ =>
          (leads_semPost .ProductInfo rfl (by decide)).followed fun _ =>
            (leads_writeSocket rfl).out (by decide)

theorem leads_writeOrderToBillingInfo {stage : Stage} {buyerData : CsvClientInfo}
    {orderList : List ItemOrder} {billingList : List CsvBillingInfo}
    (whole : stage.truncated = none) (undrawn : stage.drawn = false)
    (may : stage.draw.MayTruncate .BillingInfo) :
    Leads stage (stage.draw.truncate .BillingInfo).write
      (writeOrderToBillingInfo rand buyerData orderList billingList) := by
  have still : stage.draw.truncated = none := whole
  exact (leads_generateUID whole undrawn).bind fun _ =>
    (leads_writeBack .BillingInfo still may).bind fun _ => leads_pure

theorem leadsOut_completeAnOrder : LeadsOut .start (completeAnOrder rand buffer) := by
  refine (leads_orCrash rfl).followed fun decoded =>
    (leads_orCrash rfl).followed fun orderList => ?_
  refine (leads_semWait .ProductInfo rfl (by decide)).followed fun _ =>
    (leads_semWait .BillingInfo rfl (by decide)).followed fun _ =>
      (leads_semWait .CustomerOrder rfl (by decide)).followed fun _ =>
        (leads_loadTable .ProductInfo rfl (by decide)).followed fun productList => ?_
  split_ifs
  · refine (leads_loadTable .CustomerInfo rfl (by decide)).followed fun buyerList =>
      (leads_loadTable .BillingInfo rfl (by decide)).followed fun billingInfo =>
        (leads_loadTable .CustomerOrder rfl (by decide)).followed fun customerOrderInfo =>
          (leads_orCrash rfl).followed fun buyerRecordRow => ?_
    refine ((leads_orCrash rfl).bind fun _ =>
      leads_writeBack .ProductInfo rfl (by decide)).followed fun _ => ?_
    refine (leads_writeOrderToBillingInfo rand rfl rfl (by decide)).followed fun orderID => ?_
    exact (leads_writeBack .CustomerOrder rfl (by decide)).followed fun _ =>
      (leads_writeSocket rfl).followed fun _ =>
        (leads_semPost .ProductInfo rfl (by decide)).followed fun _ =>
          (leads_semPost .BillingInfo rfl (by decide)).followed fun _ =>
            (leads_semPost .CustomerOrder rfl (by decide)).out (by decide)
  · exact (leads_writeSocket rfl).followed fun _ =>
      (leads_semPost .ProductInfo rfl (by decide)).followed fun _ =>
        (leads_semPost .BillingInfo rfl (by decide)).followed fun _ =>
          (leads_semPost .CustomerOrder rfl (by decide)).out (by decide)

theorem leadsOut_buyerModifiesOrder : LeadsOut .start (buyerModifiesOrder buffer) := by
  refine (leads_orCrash rfl).followed fun orderID =>
    (leads_orCrash rfl).followed fun productIDtoReturn => ?_
  refine (leads_semWait .BillingInfo rfl (by decide)).followed fun _ =>
    (leads_semWait .CustomerOrder rfl (by decide)).followed fun _ =>
      (leads_loadTable .CustomerOrder rfl (by decide)).followed fun customerOrderInfo =>
        (leads_loadTable .BillingInfo rfl (by decide)).followed fun billingInfo => ?_
  exact (leads_orCrash rfl).followed fun _ =>
    (leads_writeBack .CustomerOrder rfl (by decide)).followed fun _ =>
      (leads_orCrash rfl).followed fun _ =>
        (leads_writeBack .BillingInfo rfl (by decide)).followed fun _ =>
          (leads_semPost .BillingInfo rfl (by decide)).followed fun _ =>
            (leads_semPost .CustomerOrder rfl (by decide)).out (by decide)

theorem leadsOut_editClient (clientType : ClientType)
    (edit : CsvClientInfo → Option CsvClientInfo) (id : Int32) :
    LeadsOut .start (editClient clientType edit id) := by
  cases clientType with
  | buyer =>
    exact (leads_semWait .CustomerInfo rfl (by decide)).followed fun _ =>
      (leads_loadTable .CustomerInfo rfl (by decide)).followed fun _ =>
        (leads_orCrash rfl).followed fun _ => (leads_orCrash rfl).followed fun _ =>
          leadsOut_writeBack_semPost .CustomerInfo
  | seller =>
    exact (leads_semWait .SellerInfo rfl (by decide)).followed fun _ =>
      (leads_loadTable .SellerInfo rfl (by decide)).followed fun _ =>
        (leads_orCrash rfl).followed fun _ => (leads_orCrash rfl).followed fun _ =>
          leadsOut_writeBack_semPost .SellerInfo

theorem leadsOut_editBuyer {Data : Type} (extract : Option Data)
    (editClientRow : Data → CsvClientInfo → CsvClientInfo)
    (editBillingRow : Data → CsvBillingInfo → CsvBillingInfo)
    (editOrderRow : Data → CsvCustomerOrderInfo → CsvCustomerOrderInfo) (id : Int32) :
    LeadsOut .start (editBuyer extract editClientRow editBillingRow editOrderRow id) := by
  refine (leads_semWait .CustomerInfo rfl (by decide)).followed fun _ =>
    (leads_semWait .BillingInfo rfl (by decide)).followed fun _ =>
      (leads_semWait .CustomerOrder rfl (by decide)).followed fun _ => ?_
  refine (leads_loadTable .CustomerInfo rfl (by decide)).followed fun _ =>
    (leads_orCrash rfl).followed fun _ => (leads_orCrash rfl).followed fun _ =>
      (leads_writeBack .CustomerInfo rfl (by decide)).followed fun _ => ?_
  refine (leads_loadTable .BillingInfo rfl (by decide)).followed fun _ =>
    (leads_writeBack .BillingInfo rfl (by decide)).followed fun _ => ?_
  refine (leads_loadTable .CustomerOrder rfl (by decide)).followed fun _ =>
    (leads_writeBack .CustomerOrder rfl (by decide)).followed fun _ => ?_
  exact (leads_semPost .CustomerInfo rfl (by decide)).followed fun _ =>
    (leads_semPost .BillingInfo rfl (by decide)).followed fun _ =>
      (leads_semPost .CustomerOrder rfl (by decide)).out (by decide)

theorem leadsOut_editBranch (clientType : ClientType) (subCommand : Text) (rest : List Text)
    (clientID : Int32) : LeadsOut .start (editBranch clientType subCommand rest clientID) := by
  have unchanged : LeadsOut .start (.pure ()) := leads_pure.out (by decide)
  cases clientType with
  | buyer =>
    rw [editBranch]
    split_ifs
    · exact leadsOut_editBuyer _ _ _ _ clientID
    · exact leadsOut_editClient .buyer _ clientID
    · exact leadsOut_editBuyer _ _ _ _ clientID
    · exact unchanged
  | seller =>
    rw [editBranch]
    split_ifs
    · exact leadsOut_editClient .seller _ clientID
    · exact leadsOut_editClient .seller _ clientID
    · exact leadsOut_editClient .seller _ clientID
    · exact unchanged

theorem leadsOut_clientEditsInfo : LeadsOut .start (clientEditsInfo buffer) := by
  rw [clientEditsInfo]
  split
  · refine (leads_orCrash rfl).followed fun _ => (leads_orCrash rfl).followed fun _ =>
      Obeys.bind (leadsOut_editBranch _ _ _ _) fun _ stage done => ?_
    exact (leads_writeSocket done.2).out done
  · exact obeys_call.mpr ⟨⟨rfl, trivial⟩, fun answer => answer.elim⟩

/-- The commands of the requests that change tables and look no product up before. -/
def changes : Command → Bool
  | .newClient => true
  | .newProduct => true
  | .completeOrder => true
  | .modOrder => true
  | .editInfo => true
  | _ => false

/-- A message is one of these requests. -/
def isUpdate (message : Text) : Bool :=
  match extractCommand message with
  | some (command, _) => (commandOf command).any changes
  | none => false

theorem leadsOut_execute {command : Command} (update : changes command = true) :
    LeadsOut .start (command.execute rand buffer) := by
  cases command with
  | newClient => exact leadsOut_writeNewClientData rand buffer
  | newProduct => exact leadsOut_addNewProduct rand buffer
  | completeOrder => exact leadsOut_completeAnOrder rand buffer
  | modOrder => exact leadsOut_buyerModifiesOrder buffer
  | editInfo => exact leadsOut_clientEditsInfo buffer
  | _ => cases update

theorem leadsOut_executeTaskOnServer {message : Text} (update : isUpdate message = true) :
    LeadsOut .start (executeTaskOnServer rand message) := by
  refine leadsOut_orCrash_bind rfl fun extracted same => ?_
  obtain ⟨command, buffer⟩ := extracted
  rw [isUpdate, same] at update
  cases known : commandOf command with
  | none =>
    simp only [known, Option.any_none] at update
    cases update
  | some command =>
    simp only [known]
    refine leadsOut_execute rand buffer ?_
    simpa only [known, Option.any_some] using update

end Handlers

/-! ### The disk -/

/-- A handler on the disk gets its request through. -/
theorem finishes_onDisk {stage : Stage} {handler : Handler Unit}
    (leads : LeadsOut stage handler) : Finishes stage (onDisk handler) := by
  refine Obeys.translate Eq ?_ (fun _ _ _ same done => same ▸ done) rfl leads
  rintro stage _ op rfl allows
  cases op with
  | sys op => exact obeys_call.mpr ⟨allows, fun _ _ => ⟨trivial, rfl⟩⟩
  | load file =>
    refine obeys_call.mpr ⟨allows, fun read _ => ?_⟩
    cases read with
    | none => exact ⟨trivial, rfl⟩
    | some text =>
      cases loads : file.load text with
      | none =>
        simp only [loads]
        exact obeys_call.mpr ⟨⟨(stage.read_truncated file).trans allows.1, trivial⟩,
          fun answer => answer.elim⟩
      | some table =>
        simp only [loads]
        exact ⟨trivial, rfl⟩
  | writeBack file table =>
    obtain ⟨whole, held, order⟩ := allows
    have same : stage.read file = stage := if_pos held
    refine obeys_call.mpr ⟨⟨whole, .inl held⟩, fun read _ => ?_⟩
    show Obeys _ _ _ (stage.read file) _
    rw [same]
    cases read with
    | none => exact obeys_call.mpr ⟨⟨whole, trivial⟩, fun answer => answer.elim⟩
    | some old =>
      exact obeys_call.mpr ⟨⟨whole, held, order⟩, fun _ _ =>
        obeys_call.mpr ⟨⟨rfl, held⟩, fun _ _ => ⟨trivial, rfl⟩⟩⟩

/-- The requests that change tables follow the protocol. -/
theorem finishes_executeTaskOnServer (rand : Rand) {message : Text}
    (update : isUpdate message = true) :
    Finishes .start (onDisk (executeTaskOnServer rand message)) :=
  finishes_onDisk (leadsOut_executeTaskOnServer rand update)

end OnlineStore.Updates
