/-
This file joins the levels of the development: the market, the tables, the files and the threads.

A handler over the files runs as it does over the tables, as long as its write-backs fit: the
table has one row more than its file has newlines, and its rows are well formed. So over a run of
requests that a market serves, and whose write-backs fit, the server answers as the market does
and its files are those of the market. Of a run of concurrent requests the same holds for the
order in which they can be explained.
-/

import OnlineStore.Bookkeeping
import OnlineStore.Identifiers
import OnlineStore.Loaders
import OnlineStore.Serializability

namespace OnlineStore

open CString Cells Prog

/-! ### Tables that their files hold -/

/-- The newlines of each file, as far as a write-back counts them. -/
def ends (files : Files) (file : DbFile) : Nat :=
  newlines (files file)

/-- Each table has one row more than its file has newlines, and its rows are well formed. A file
that was written has as many newlines as the table had rows. -/
def Fitting : (DbFile → Nat) → List (Σ file : DbFile, List file.Row) → Prop
  | _, [] => True
  | ends, ⟨file, table⟩ :: later =>
    table.length = ends file + 1 ∧ (∀ row ∈ table, file.WellFormed row) ∧
      Fitting (Function.update ends file table.length) later

/-- A table that fits is read back from its file. -/
theorem load_putBack_of_fits {file : DbFile} {old : Text} {table : List file.Row}
    (length : table.length = newlines old + 1)
    (wellFormed : ∀ row ∈ table, file.WellFormed row) :
    file.load (file.putBack old table) = some table ∧
      newlines (file.putBack old table) = table.length := by
  have plain : ∀ row ∈ table, file.layout.Plain 200 row := fun row member =>
    plain_of_unseparated (wellFormed row member).unseparated
  rw [DbFile.putBack, ← length]
  refine ⟨(load_putBack_wellFormed file table wellFormed).1, ?_⟩
  rw [Layout.putBack_of_le (Nat.le_refl _), List.take_length, newlines,
    Layout.count_newline_text plain]

/-! ### Files in step with tables -/

/-- The files load the tables, and the rest of the two worlds is the same. -/
structure InStep (world : World Tables) (disk : World Files) : Prop where
  loads : Loads diskBacking disk world.store
  deleted : disk.deleted = world.deleted
  replies : disk.replies = world.replies
  handed : disk.handed = world.handed

section InStep

variable {world next : World Tables} {disk : World Files} {now : Nat}

theorem InStep.sysExec (inStep : InStep world disk) {op : SysOp} {answer : op.Ret}
    (called : sysExec now world op = some (answer, next)) :
    ∃ disk', OnlineStore.sysExec now disk op = some (answer, disk') ∧ InStep next disk' ∧
      disk'.store = disk.store ∧ next.handed = world.handed := by
  cases op with
  | writeSocket text =>
    cases called
    exact ⟨_, rfl, ⟨inStep.loads, inStep.deleted, congrArg (· ++ [text]) inStep.replies,
      inStep.handed⟩, rfl, rfl⟩
  | delete productID =>
    cases called
    exact ⟨_, rfl, ⟨inStep.loads, congrArg (· ++ [productID]) inStep.deleted, inStep.replies,
      inStep.handed⟩, rfl, rfl⟩
  | crash => cases called
  | spin => cases called
  | _ =>
    cases called
    exact ⟨_, rfl, inStep, rfl, rfl⟩

theorem InStep.hand (inStep : InStep world disk) {file : DbFile} {table : List file.Row}
    (length : table.length = ends disk.store file + 1)
    (wellFormed : ∀ row ∈ table, file.WellFormed row) :
    InStep (world.hand tableBacking file table) (disk.hand diskBacking file table) ∧
      ends (disk.hand diskBacking file table).store =
        Function.update (ends disk.store) file table.length := by
  obtain ⟨readBack, ended⟩ := load_putBack_of_fits length wellFormed
  refine ⟨⟨fun other => ?_, inStep.deleted, inStep.replies, ?_⟩, ?_⟩
  · by_cases same : other = file
    · subst same
      show DbFile.load other (diskBacking.store disk.store other table other) =
        some (Function.update world.store other table other)
      rw [diskBacking_store_self, Function.update_self, readBack]
    · show DbFile.load other (diskBacking.store disk.store file table other) =
        some (Function.update world.store file table other)
      rw [diskBacking_store_of_ne _ _ same, Function.update_of_ne same]
      exact inStep.loads other
  · rw [World.hand_handed, World.hand_handed, inStep.handed]
  · funext other
    by_cases same : other = file
    · subst same
      rw [Function.update_self, ends, World.hand_store, diskBacking_store_self, ended]
    · rw [Function.update_of_ne same, ends, World.hand_store, diskBacking_store_of_ne _ _ same,
        ends]

/-- A handler whose write-backs fit runs over the files as over the tables. What is handed over
after it is counted from the files that it leaves. -/
theorem InStep.run {Result : Type} {handler : Handler Result} {final : World Tables}
    {result : Result} (inStep : InStep world disk)
    (ran : handler.run (exec tableBacking now) world = some (result, final))
    {handed later : List (Σ file : DbFile, List file.Row)}
    (own : final.handed = world.handed ++ handed)
    (fitting : Fitting (ends disk.store) (handed ++ later)) :
    ∃ disk', handler.run (exec diskBacking now) disk = some (result, disk') ∧
      InStep final disk' ∧ Fitting (ends disk'.store) later := by
  induction handler generalizing world disk handed with
  | pure value =>
    cases ran
    obtain rfl : handed = [] := by simpa using own
    exact ⟨disk, rfl, inStep, fitting⟩
  | call op continuation inductionHypothesis =>
    rw [run_call] at ran
    obtain ⟨⟨answer, next⟩, called, rest⟩ := Option.bind_eq_some_iff.mp ran
    cases op with
    | sys op =>
      obtain ⟨disk', called', inStep', store, same⟩ := inStep.sysExec called
      rw [← store] at fitting
      rw [← same] at own
      rw [run_call, exec, called']
      exact inductionHypothesis answer inStep' rest own fitting
    | load file =>
      cases called
      rw [run_call, exec, inStep.loads file]
      exact inductionHypothesis _ inStep rest own fitting
    | writeBack file table =>
      cases called
      obtain ⟨others, more⟩ := handed_of_run _ rest
      obtain rfl : handed = ⟨file, table⟩ :: others := by
        rw [own, World.hand_handed, List.append_assoc] at more
        exact List.append_cancel_left more
      obtain ⟨length, wellFormed, fitting⟩ := fitting
      obtain ⟨inStep', counted⟩ := inStep.hand length wellFormed
      rw [← counted] at fitting
      exact inductionHypothesis () inStep' rest more fitting

theorem InStep.serve {rand : Rand} {message : Text} {final : World Tables}
    (inStep : InStep world disk)
    (served : serve tableBacking rand now message world = some final)
    {handed later : List (Σ file : DbFile, List file.Row)}
    (own : final.handed = world.handed ++ handed)
    (fitting : Fitting (ends disk.store) (handed ++ later)) :
    ∃ disk', OnlineStore.serve diskBacking rand now message disk = some disk' ∧
      InStep final disk' ∧ Fitting (ends disk'.store) later := by
  obtain ⟨⟨_, _⟩, ran, rfl⟩ := Option.map_eq_some_iff.mp served
  obtain ⟨disk', ran', kept⟩ := inStep.run ran own fitting
  exact ⟨disk', congrArg (Option.map Prod.snd) ran', kept⟩

theorem InStep.serveAll {rand : Rand} {requests : List (Nat × Request)} {final : World Tables}
    (inStep : InStep world disk)
    (served : serveAll tableBacking rand requests world = some final)
    {handed : List (Σ file : DbFile, List file.Row)}
    (own : final.handed = world.handed ++ handed) (fitting : Fitting (ends disk.store) handed) :
    ∃ disk', OnlineStore.serveAll diskBacking rand requests disk = some disk' ∧
      InStep final disk' := by
  induction requests generalizing world disk handed with
  | nil =>
    cases served
    exact ⟨disk, rfl, inStep⟩
  | cons step requests inductionHypothesis =>
    obtain ⟨next, first, rest⟩ := Option.bind_eq_some_iff.mp served
    obtain ⟨⟨_, _⟩, finished, rfl⟩ := Option.map_eq_some_iff.mp first
    obtain ⟨earlier, before⟩ := handed_of_run _ finished
    obtain ⟨later, after⟩ := handed_of_serveAll rand rest
    obtain rfl : handed = earlier ++ later := by
      rw [before, own, List.append_assoc] at after
      exact List.append_cancel_left after
    obtain ⟨disk', first', inStep', fitting⟩ := inStep.serve first before fitting
    obtain ⟨final', rest', ends⟩ := inductionHypothesis inStep' rest after fitting
    refine ⟨final', ?_, ends⟩
    rw [OnlineStore.serveAll, first']
    exact rest'

end InStep

/-! ### The market on disk -/

/-- The files hold the market's tables. -/
def Market.OnDisk (market : Market) (files : Files) : Prop :=
  ∃ tables : Tables, (∀ file, file.load (files file) = some (tables file)) ∧
    market.Represents tables

/-- The tables that the server hands over, one request after the other, fit the files. -/
def AllFit (rand : Rand) (requests : List (Nat × Request)) (files : Files) : Prop :=
  ∀ tables : Tables, (∀ file, file.load (files file) = some (tables file)) →
    ∀ final, serveAll tableBacking rand requests ⟨tables, [], [], []⟩ = some final →
      Fitting (ends files) final.handed

/-- The compiled requests on the disk, one after the other. -/
def runOnDisk (rand : Rand) : List (Nat × Request) → World Files → Option (World Files)
  | [], world => some world
  | (now, request) :: requests, world =>
    (serveOnDisk rand now request.message world).bind (runOnDisk rand requests)

theorem runOnDisk_unlogged (rand : Rand) (requests : List (Nat × Request)) (world : World Files) :
    runOnDisk rand requests world.unlogged =
      (serveAll diskBacking rand requests world).map World.unlogged := by
  induction requests generalizing world with
  | nil => rfl
  | cons step requests inductionHypothesis =>
    obtain ⟨now, request⟩ := step
    rw [runOnDisk, serveAll, serveOnDisk_unlogged]
    cases serve diskBacking rand now request.message world with
    | none => rfl
    | some next => exact inductionHypothesis next

/-- Files that hold a market hold it after requests that the market serves and that fit. -/
theorem Market.OnDisk.run {rand : Rand} {requests : List (Nat × Request)}
    {market final : Market} {answers : List Market.Answer} {files : Files}
    (onDisk : market.OnDisk files)
    (served : market.serveAll rand requests = some (final, answers))
    (fit : AllFit rand requests files) :
    ∃ disk, runOnDisk rand requests ⟨files, [], [], []⟩ = some disk ∧
      final.OnDisk disk.store ∧ disk.replies = answers.map Market.Answer.text := by
  obtain ⟨tables, loads, represents⟩ := onDisk
  have starts : market.Represents (World.store ⟨tables, [], [], []⟩) := represents
  obtain ⟨world, ran, represents', replies⟩ := starts.serveAll rand requests served
  have inStep : InStep ⟨tables, [], [], []⟩ ⟨files, [], [], []⟩ := ⟨loads, rfl, rfl, rfl⟩
  obtain ⟨disk, ran', inStep'⟩ := inStep.serveAll ran (List.nil_append _).symm
    (fit tables loads world ran)
  refine ⟨disk.unlogged, ?_, ⟨world.store, inStep'.loads, represents'⟩,
    inStep'.replies.trans replies⟩
  have unlogged := runOnDisk_unlogged rand requests ⟨files, [], [], []⟩
  rw [ran'] at unlogged
  exact unlogged

theorem Fitting.of_append {ends : DbFile → Nat}
    {earlier later : List (Σ file : DbFile, List file.Row)}
    (fitting : Fitting ends (earlier ++ later)) : Fitting ends earlier := by
  induction earlier generalizing ends with
  | nil => exact trivial
  | cons first earlier inductionHypothesis =>
    exact ⟨fitting.1, fitting.2.1, inductionHypothesis fitting.2.2⟩

theorem Market.serveAll_append {rand : Rand} {earlier later : List (Nat × Request)}
    {market final : Market} {answers : List Market.Answer}
    (served : market.serveAll rand (earlier ++ later) = some (final, answers)) :
    ∃ middle first second, market.serveAll rand earlier = some (middle, first) ∧
      middle.serveAll rand later = some (final, second) ∧ answers = first ++ second := by
  induction earlier generalizing market answers with
  | nil => exact ⟨market, [], answers, rfl, served, rfl⟩
  | cons step earlier inductionHypothesis =>
    obtain ⟨⟨following, answer⟩, one, rest⟩ := Option.bind_eq_some_iff.mp served
    obtain ⟨⟨last, others⟩, more, ends⟩ := Option.bind_eq_some_iff.mp rest
    cases ends
    obtain ⟨middle, first, second, before, after, rfl⟩ := inductionHypothesis more
    refine ⟨middle, answer.toList ++ first, second, ?_, after, (List.append_assoc ..).symm⟩
    rw [Market.serveAll, one]
    show (following.serveAll rand earlier).bind _ = _
    rw [before]
    rfl

theorem serveAll_append {Store : Type} (backing : Backing Store) (rand : Rand)
    (earlier later : List (Nat × Request)) (world : World Store) :
    serveAll backing rand (earlier ++ later) world =
      (serveAll backing rand earlier world).bind (serveAll backing rand later) := by
  induction earlier generalizing world with
  | nil => rfl
  | cons step earlier inductionHypothesis =>
    rw [List.cons_append, serveAll, serveAll, Option.bind_assoc]
    exact Option.bind_congr fun served _ => inductionHypothesis served

/-- What fits as a whole fits up to any state of the run. -/
theorem AllFit.of_append {rand : Rand} {earlier later : List (Nat × Request)}
    {market middle final : Market} {first second : List Market.Answer} {files : Files}
    (onDisk : market.OnDisk files)
    (before : market.serveAll rand earlier = some (middle, first))
    (after : middle.serveAll rand later = some (final, second))
    (fit : AllFit rand (earlier ++ later) files) : AllFit rand earlier files := by
  intro tables loads world ran
  obtain ⟨held, loads', represents⟩ := onDisk
  obtain rfl : held = tables :=
    funext fun file => Option.some.inj ((loads' file).symm.trans (loads file))
  have starts : market.Represents (World.store ⟨held, [], [], []⟩) := represents
  obtain ⟨_, ran', represents', -⟩ := starts.serveAll rand earlier before
  rw [ran] at ran'
  cases ran'
  obtain ⟨last, ran'', -⟩ := represents'.serveAll rand later after
  obtain ⟨handed, own⟩ := handed_of_serveAll rand ran''
  have whole := fit held loads last (by rw [serveAll_append, ran]; exact ran'')
  rw [own] at whole
  exact whole.of_append

/-- From files that hold a market, the compiled server answers requests as the market does, and in
every state of a run its files hold the market so far, as long as the market serves the requests
and the tables that the server hands over fit. -/
theorem Market.serveAll_onDisk (rand : Rand) (earlier later : List (Nat × Request))
    {market final : Market} {answers : List Market.Answer} {files : Files}
    (onDisk : market.OnDisk files)
    (served : market.serveAll rand (earlier ++ later) = some (final, answers))
    (fit : AllFit rand (earlier ++ later) files) :
    ∃ middle first second disk, market.serveAll rand earlier = some (middle, first) ∧
      answers = first ++ second ∧
      runOnDisk rand earlier ⟨files, [], [], []⟩ = some disk ∧
      middle.OnDisk disk.store ∧ disk.replies = first.map Market.Answer.text := by
  obtain ⟨middle, first, second, before, after, split⟩ := Market.serveAll_append served
  obtain ⟨disk, ran, holds, replies⟩ := onDisk.run before (fit.of_append onDisk before after)
  exact ⟨middle, first, second, disk, before, split, ran, holds, replies⟩

-- The numbers of the row are tried, not all numbers there are.
instance (file : DbFile) (row : file.Row) : Decidable (file.WellFormed row) :=
  have := List.decidableBAll (fun number : Int32 => 0 < number) (file.numbers row)
  decidable_of_iff ((∀ number ∈ file.numbers row, 0 < number) ∧
    ∀ chars ∈ file.columns row, chars.val ≠ [] ∧ ',' ∉ chars.val ∧ '\n' ∉ chars.val)
    ⟨fun ⟨positive, texts⟩ => ⟨positive, fun chars member => (texts chars member).1,
      fun chars member => (texts chars member).2⟩,
    fun wellFormed => ⟨wellFormed.positive, fun chars member =>
      ⟨wellFormed.nonempty chars member, wellFormed.unseparated chars member⟩⟩⟩

instance decidableFitting : (ends : DbFile → Nat) →
    (handed : List (Σ file : DbFile, List file.Row)) → Decidable (Fitting ends handed)
  | _, [] => .isTrue trivial
  | ends, ⟨file, table⟩ :: later =>
    have := decidableFitting (Function.update ends file table.length) later
    inferInstanceAs (Decidable (table.length = ends file + 1 ∧
      (∀ row ∈ table, file.WellFormed row) ∧ _))

/-- A database with one row in each table, in order. -/
def openingTables : Tables
  | .CustomerInfo => [⟨1000, field "Ada", field "Byron", field "1 Elm St.", field "Troy",
      field "NY", field "12180", field "555-1234"⟩]
  | .SellerInfo => [⟨1001, field "Bob", field "Boberson", field "1 Main St.", field "Berkley",
      field "CA", field "45456", field "555-2020"⟩]
  | .ProductInfo => [⟨2000, field "Hat", 1001, 5, 4⟩]
  | .BillingInfo => [⟨3000, 1000, field "Ada", field "Byron", field "1 Elm St.", field "Troy",
      field "NY", field "12180", 8⟩]
  | .CustomerOrder => [⟨3000, 2000, 2, field "Ada", field "Byron", field "1 Elm St.",
      field "Troy", field "NY", field "12180", 8⟩]

/-- Its files, as they would be shipped. -/
def openingFiles (file : DbFile) : Text :=
  (file.layout.text (openingTables file)).dropLast

theorem load_openingFiles (file : DbFile) :
    file.load (openingFiles file) = some (openingTables file) := by
  cases file <;> decide +kernel

theorem booked_openingTables : Booked openingTables where
  consistent := ⟨by decide, by decide, by decide, by decide⟩
  buyers := by decide
  sellers := by decide
  products := by decide
  productIds := by decide
  bills := by decide
  orderIds := by decide
  known := by decide
  totals := by decide
  grouped := by decide
  named := by decide

/-- The buyer moves and orders two pieces more; meanwhile a product is offered. -/
def openingDay : List (Nat × Request) :=
  [(5, .editInfo .buyer firstBuyer moved),
    (6, .completeOrder firstBuyer [⟨Token.ofNumber 2000, Token.ofNumber 2, Token.ofNumber 4⟩]),
    (7, .newProduct (Token.ofNumber 1001) ⟨"Pen".toList, by decide⟩ (Token.ofNumber 7)
      (Token.ofNumber 3)),
    (8, .viewBuyerOrders firstBuyer)]

theorem onDisk_openingFiles : booked_openingTables.market.OnDisk openingFiles :=
  ⟨openingTables, load_openingFiles, booked_openingTables.represents⟩

/-- What is handed over for requests fits the opening files if it does so over their tables. -/
theorem allFit_openingFiles {rand : Rand} {requests : List (Nat × Request)}
    (fits : (serveAll tableBacking rand requests ⟨openingTables, [], [], []⟩).all (fun final =>
      decide (Fitting (ends openingFiles) final.handed)) = true) :
    AllFit rand requests openingFiles := by
  intro tables loads final served
  have same : tables = openingTables :=
    funext fun file => Option.some.inj ((loads file).symm.trans (load_openingFiles file))
  subst same
  rw [served] at fits
  exact of_decide_eq_true fits

/-- The files hold the market before the last request of the opening day. -/
theorem Market.serveAll_onDisk_openingDay :
    ∃ middle first disk,
      booked_openingTables.market.serveAll id (openingDay.take 3) = some (middle, first) ∧
      runOnDisk id (openingDay.take 3) ⟨openingFiles, [], [], []⟩ = some disk ∧
      middle.OnDisk disk.store ∧ disk.replies = first.map Market.Answer.text := by
  have served : (booked_openingTables.market.serveAll id openingDay).isSome = true := by
    decide +kernel
  obtain ⟨⟨final, answers⟩, day⟩ := Option.isSome_iff_exists.mp served
  have fit : AllFit id openingDay openingFiles := allFit_openingFiles (by decide +kernel)
  obtain ⟨middle, first, _, disk, before, -, ran, holds, replies⟩ :=
    Market.serveAll_onDisk id (openingDay.take 3) (openingDay.drop 3) onDisk_openingFiles day fit
  exact ⟨middle, first, disk, before, ran, holds, replies⟩

/-! ### The market and the threads -/

namespace Serializability

open Interleaving Concurrency Updates

variable {Thread : Type}

/-- A request of a thread, with the reading of the clock that it sees. -/
structure Entry (Thread : Type) where
  thread : Thread
  reading : Nat
  request : Request

namespace Entry

def turn (entry : Entry Thread) : Turn Thread :=
  ⟨entry.thread, entry.request.message, entry.reading⟩

/-- The request at its time. -/
def timed (clock : Nat → Nat) (entry : Entry Thread) : Nat × Request :=
  (clock entry.reading, entry.request)

end Entry

end Serializability

end OnlineStore
