/-
This file settles that the relay does not get stuck, for any number of clients and any data server
that answers every frame once, as long as the requests fit a message of the queue. A longer one is
not posted, and its child waits for a reply that nobody owes it.

Requests that fit are never given up: while neither a client connects nor a
request comes in, the relay makes at most as many steps as `work` counts, in whatever order its
processes take them, and when no process can take one, every posted request was answered to some
client and every child that has not exited reads its client's socket again. Whose answer a client
has got is another matter.
-/

import OnlineStore.Relay
import Mathlib.Algebra.BigOperators.Group.Finset.Basic

namespace OnlineStore

open CString

/-! ### Weights of the processes -/

def Child.waits : Child → Nat
  | .waiting _ => 1
  | _ => 0

/-- A forwarder that has a request or a reply. -/
def Forwarder.carries : Forwarder → Nat
  | .holding _ => 1
  | .replying _ => 1
  | _ => 0

def Forwarder.awaits : Forwarder → Nat
  | .awaiting => 1
  | _ => 0

/-- The step is neither a new connection nor a new request. -/
def RelayStep.isInternal : RelayStep → Bool
  | .accept => false
  | .childReads _ _ => false
  | _ => true

/-- The request that is read fits a message of the queue. -/
def RelayStep.fits : RelayStep → Bool
  | .childReads _ text => text.length ≤ MAX_MSG_SIZE
  | _ => true

/-- How many steps are left for what a child does. -/
def Child.work : Child → Nat
  | .starting => 1
  | .sending _ => 8
  | .answering _ _ => 1
  | _ => 0

def Forwarder.work : Forwarder → Nat
  | .starting => 1
  | .holding _ => 6
  | .replying _ => 3
  | _ => 0

namespace Relay

variable {ServerState : Type} {respond : ServerState → Text → Text × ServerState}
variable {relay next : Relay ServerState} {action : RelayStep}

/-! ### Sums over the processes -/

section Totals

variable {Process : Type}

/-- A sum over the processes of the clients. -/
def total (weight : Process → Nat) (processes : Nat → Process) (size : Nat) : Nat :=
  ∑ client ∈ Finset.range size, weight (processes client)

theorem total_update (weight : Process → Nat) (processes : Nat → Process) (process : Process)
    {client size : Nat} (bound : client < size) :
    total weight (Function.update processes client process) size + weight (processes client) =
      total weight processes size + weight process := by
  have member : client ∈ Finset.range size := Finset.mem_range.mpr bound
  have others : ∑ other ∈ (Finset.range size).erase client,
        weight (Function.update processes client process other) =
      ∑ other ∈ (Finset.range size).erase client, weight (processes other) :=
    Finset.sum_congr rfl fun other inside => by
      rw [Function.update_of_ne (Finset.ne_of_mem_erase inside)]
  rw [total, total, ← Finset.add_sum_erase _ _ member, ← Finset.add_sum_erase _ _ member, others,
    Function.update_self]
  omega

theorem total_succ (weight : Process → Nat) (processes : Nat → Process) (process : Process)
    (size : Nat) :
    total weight (Function.update processes size process) (size + 1) =
      total weight processes size + weight process := by
  rw [total, Finset.sum_range_succ, Function.update_self]
  congr 1
  exact Finset.sum_congr rfl fun other inside => by
    rw [Function.update_of_ne (Nat.ne_of_lt (Finset.mem_range.mp inside))]

/-- A process that counts is there when the sum is positive. -/
theorem exists_of_total_pos {weight : Process → Nat} {processes : Nat → Process} {size : Nat}
    (positive : 0 < total weight processes size) :
    ∃ client < size, 0 < weight (processes client) := by
  by_contra none
  push Not at none
  refine absurd (Finset.sum_eq_zero fun client inside => ?_) positive.ne'
  exact Nat.le_zero.mp (none client (Finset.mem_range.mp inside))

end Totals

/-! ### Balances -/

/-- As many children wait as there are requests and replies on the way, as many forwarders wait as
there are on the connection, and every client has its processes. -/
structure Even (relay : Relay ServerState) : Prop where
  waiting : total Child.waits relay.children relay.accepted =
    relay.queue.length + total Forwarder.carries relay.forwarders relay.forwarding +
      relay.toServer.length + relay.fromServer.length + relay.pipe.length
  awaiting : total Forwarder.awaits relay.forwarders relay.forwarding =
    relay.toServer.length + relay.fromServer.length
  forked : relay.forwarding ≤ relay.accepted
  connected : ∀ client < relay.accepted, relay.children client ≠ .absent
  present : ∀ client < relay.forwarding, relay.forwarders client ≠ .absent

theorem even_start (server : ServerState) (queueExists : Bool) :
    (start server queueExists).Even :=
  ⟨rfl, rfl, le_refl 0, fun client bound => absurd bound (Nat.not_lt_zero client),
    fun client bound => absurd bound (Nat.not_lt_zero client)⟩

/-- The requests and replies that no process holds. -/
def between (relay : Relay ServerState) : Nat :=
  relay.queue.length + relay.toServer.length + relay.fromServer.length + relay.pipe.length

/-- A child moves on and takes or leaves as much as it waits for more or less. -/
theorem Even.childSteps (even : relay.Even) {client : Nat} (child : Child)
    (bound : client < relay.accepted) (there : child ≠ .absent)
    (accepted : next.accepted = relay.accepted)
    (children : next.children = Function.update relay.children client child)
    (forwarding : next.forwarding = relay.forwarding)
    (forwarders : next.forwarders = relay.forwarders)
    (waiting : next.between + (relay.children client).waits = relay.between + child.waits)
    (connection : next.toServer.length + next.fromServer.length =
      relay.toServer.length + relay.fromServer.length) : next.Even := by
  have balance := even.waiting
  have sum := total_update Child.waits relay.children child bound
  rw [between, between] at waiting
  refine ⟨?_, ?_, ?_, fun other inside => ?_, ?_⟩
  · rw [accepted, children, forwarding, forwarders]
    omega
  · rw [forwarding, forwarders, connection, even.awaiting]
  · rw [forwarding, accepted]
    exact even.forked
  · rw [children]
    by_cases same : other = client
    · rw [same, Function.update_self]
      exact there
    · rw [Function.update_of_ne same]
      exact even.connected other (accepted ▸ inside)
  · rw [forwarding, forwarders]
    exact even.present

/-- A forwarder moves on and takes or leaves as much as it carries more or less. -/
theorem Even.forwarderSteps (even : relay.Even) {client : Nat} (forwarder : Forwarder)
    (bound : client < relay.forwarding) (there : forwarder ≠ .absent)
    (accepted : next.accepted = relay.accepted) (children : next.children = relay.children)
    (forwarding : next.forwarding = relay.forwarding)
    (forwarders : next.forwarders = Function.update relay.forwarders client forwarder)
    (carrying : next.between + forwarder.carries =
      relay.between + (relay.forwarders client).carries)
    (awaiting : next.toServer.length + next.fromServer.length +
        (relay.forwarders client).awaits =
      relay.toServer.length + relay.fromServer.length + forwarder.awaits) : next.Even := by
  have balance := even.waiting
  have connection := even.awaiting
  have carried := total_update Forwarder.carries relay.forwarders forwarder bound
  have awaited := total_update Forwarder.awaits relay.forwarders forwarder bound
  rw [between, between] at carrying
  refine ⟨?_, ?_, ?_, ?_, fun other inside => ?_⟩
  · rw [accepted, children, forwarding, forwarders]
    omega
  · rw [forwarding, forwarders]
    omega
  · rw [forwarding, accepted]
    exact even.forked
  · rw [accepted, children]
    exact even.connected
  · rw [forwarders]
    by_cases same : other = client
    · rw [same, Function.update_self]
      exact there
    · rw [Function.update_of_ne same]
      exact even.present other (forwarding ▸ inside)

/-- The requests that wait to be posted fit a message of the queue. -/
def Postable (relay : Relay ServerState) : Prop :=
  ∀ client request, relay.children client = .sending request → request.text.length ≤ MAX_MSG_SIZE

theorem postable_start (server : ServerState) (queueExists : Bool) :
    (start server queueExists).Postable :=
  fun client request sends => by cases sends

/-- A child that sends nothing is set. -/
theorem Postable.setChild (postable : relay.Postable) {client : Nat} {child : Child}
    (silent : ∀ request, child ≠ .sending request) : (relay.setChild client child).Postable := by
  intro other request sends
  by_cases same : other = client
  · subst same
    exact absurd ((setChild_self child).symm.trans sends) (silent request)
  · exact postable other request ((setChild_of_ne child same).symm.trans sends)

theorem Postable.step (postable : relay.Postable) (fits : action.fits = true)
    (stepped : relay.step respond action = some next) : next.Postable := by
  cases steps_of_step stepped with
  | accept turn => exact postable.setChild nofun
  | childOpens starts => exact postable.setChild (by split <;> nofun)
  | @childReads client text reads =>
    intro other request sends
    by_cases same : other = client
    · subst same
      cases (setChild_self _).symm.trans sends
      exact of_decide_eq_true fits
    · exact postable other request ((setChild_of_ne _ same).symm.trans sends)
  | mqSend sends room => exact postable.setChild nofun
  | mqSendFails sends long => exact postable.setChild nofun
  | readPipe waits piped => exact postable.setChild nofun
  | writeClient answers => exact postable.setChild nofun
  | _ => exact postable

theorem Even.step (even : relay.Even) (numbered : relay.Numbered) (postable : relay.Postable)
    (stepped : relay.step respond action = some next) : next.Even := by
  cases steps_of_step stepped with
  | accept turn =>
    refine ⟨?_, even.awaiting, even.forked.trans (Nat.le_succ _), fun other inside => ?_,
      even.present⟩
    · exact (total_succ Child.waits relay.children .starting relay.accepted).trans even.waiting
    · by_cases same : other = relay.accepted
      · rw [same]
        exact ne_of_eq_of_ne (setChild_self _) (by simp)
      · exact ne_of_eq_of_ne (setChild_of_ne _ same)
          (even.connected other (lt_of_le_of_ne (Nat.lt_succ_iff.mp inside) same))
  | fork turn =>
    refine ⟨?_, ?_, turn, even.connected, fun other inside => ?_⟩
    · show _ = _ + total Forwarder.carries (Function.update relay.forwarders relay.forwarding
        .starting) (relay.forwarding + 1) + _ + _ + _
      rw [total_succ]
      exact even.waiting
    · show total Forwarder.awaits (Function.update relay.forwarders relay.forwarding
        .starting) (relay.forwarding + 1) = _
      rw [total_succ]
      exact even.awaiting
    · by_cases same : other = relay.forwarding
      · rw [same]
        exact ne_of_eq_of_ne (setForwarder_self _) (by simp)
      · exact ne_of_eq_of_ne (setForwarder_of_ne _ same)
          (even.present other (lt_of_le_of_ne (Nat.lt_succ_iff.mp inside) same))
  | childOpens starts =>
    refine even.childSteps _ (numbered.child_lt starts (by simp)) (by split <;> simp) rfl rfl rfl
      rfl ?_ rfl
    rw [starts]
    split <;> rfl
  | forwarderOpens starts =>
    refine even.forwarderSteps .receiving (numbered.forwarder_lt starts (by simp)) (by simp) rfl rfl
      rfl rfl ?_ ?_ <;> rw [starts] <;> rfl
  | childReads reads =>
    refine even.childSteps (.sending ⟨_, _, _⟩) (numbered.child_lt reads (by simp)) (by simp) rfl
      rfl rfl rfl ?_ rfl
    rw [reads]
    rfl
  | mqSendFails sends long => exact absurd (postable _ _ sends) long
  | mqSend sends fits room =>
    refine even.childSteps (.waiting _) (numbered.child_lt sends (by simp)) (by simp) rfl rfl rfl
      rfl ?_ rfl
    rw [sends]
    simp only [between, setChild, List.length_append, List.length_singleton, Child.waits]
    omega
  | @mqReceive _ request _ receives queued =>
    refine even.forwarderSteps (.holding request) (numbered.forwarder_lt receives (by simp))
      (by simp) rfl rfl rfl rfl ?_ ?_ <;> rw [receives]
    · simp only [between, setForwarder, queued, List.length_cons, Forwarder.carries]
      omega
    · rfl
  | writeServer holds =>
    refine even.forwarderSteps .awaiting (numbered.forwarder_lt holds (by simp)) (by simp) rfl rfl
      rfl rfl ?_ ?_ <;> rw [holds] <;>
    simp only [between, setForwarder, List.length_append, List.length_singleton,
      Forwarder.carries, Forwarder.awaits] <;> omega
  | serve sent =>
    refine ⟨?_, ?_, even.forked, even.connected, even.present⟩
    · have balance := even.waiting
      rw [sent, List.length_cons] at balance
      simp only [List.length_append, List.length_singleton]
      omega
    · have connection := even.awaiting
      rw [sent, List.length_cons] at connection
      simp only [List.length_append, List.length_singleton]
      omega
  | @readServer _ reply _ awaits arrived =>
    refine even.forwarderSteps (.replying reply) (numbered.forwarder_lt awaits (by simp)) (by simp)
      rfl rfl rfl rfl ?_ ?_ <;> rw [awaits] <;>
    simp only [between, setForwarder, arrived, List.length_cons, Forwarder.carries,
      Forwarder.awaits] <;> omega
  | writePipe replies =>
    refine even.forwarderSteps .receiving (numbered.forwarder_lt replies (by simp)) (by simp) rfl
      rfl rfl rfl ?_ ?_ <;> rw [replies]
    · simp only [between, setForwarder, List.length_append, List.length_singleton,
        Forwarder.carries]
      omega
    · rfl
  | readPipe waits piped =>
    refine even.childSteps (.answering _ _) (numbered.child_lt waits (by simp)) (by simp) rfl rfl
      rfl rfl ?_ rfl
    rw [waits]
    simp only [between, setChild, piped, List.length_cons, Child.waits]
    omega
  | writeClient answers =>
    refine even.childSteps .reading (numbered.child_lt answers (by simp)) (by simp) rfl rfl rfl rfl
      ?_ rfl
    rw [answers]
    rfl

/-! ### Work -/

/-- A bound on the steps until nothing moves any more. -/
def work (relay : Relay ServerState) : Nat :=
  2 * (relay.accepted - relay.forwarding) + total Child.work relay.children relay.accepted +
    total Forwarder.work relay.forwarders relay.forwarding + 7 * relay.queue.length +
    5 * relay.toServer.length + 4 * relay.fromServer.length + 2 * relay.pipe.length

theorem Numbered.total_child (numbered : relay.Numbered) {client : Nat} {before : Child}
    (equal : relay.children client = before) (there : before ≠ .absent) (child : Child) :
    total Child.work (Function.update relay.children client child) relay.accepted + before.work =
      total Child.work relay.children relay.accepted + child.work :=
  equal ▸ total_update Child.work relay.children child (numbered.child_lt equal there)

theorem Numbered.total_forwarder (numbered : relay.Numbered) {client : Nat} {before : Forwarder}
    (equal : relay.forwarders client = before) (there : before ≠ .absent) (forwarder : Forwarder) :
    total Forwarder.work (Function.update relay.forwarders client forwarder) relay.forwarding +
        before.work =
      total Forwarder.work relay.forwarders relay.forwarding + forwarder.work :=
  equal ▸ total_update Forwarder.work relay.forwarders forwarder
    (numbered.forwarder_lt equal there)

/-- Every step that is neither a new connection nor a new request lowers the work. -/
theorem work_lt (numbered : relay.Numbered) (internal : action.isInternal = true)
    (stepped : relay.step respond action = some next) : next.work < relay.work := by
  cases steps_of_step stepped with
  | accept turn => cases internal
  | childReads reads => cases internal
  | fork turn =>
    have sum := total_succ Forwarder.work relay.forwarders .starting relay.forwarding
    simp only [work, setForwarder, sum, Forwarder.work]
    omega
  | childOpens starts =>
    have sum := numbered.total_child starts (by simp)
      (if relay.queueExists then .reading else .exited)
    have idle : Child.work (if relay.queueExists then .reading else .exited) = 0 := by
      split <;> rfl
    rw [idle] at sum
    change _ + 1 = _ at sum
    simp only [work, setChild]
    omega
  | @forwarderOpens client starts =>
    have sum := numbered.total_forwarder starts (by simp) .receiving
    simp only [Forwarder.work] at sum
    simp only [work, setForwarder]
    omega
  | @mqSend client request sends fits room =>
    have sum := numbered.total_child sends (by simp) (.waiting request)
    simp only [Child.work] at sum
    simp only [work, setChild, List.length_append, List.length_singleton]
    omega
  | @mqSendFails client request sends long =>
    have sum := numbered.total_child sends (by simp) (.waiting request)
    simp only [Child.work] at sum
    simp only [work, setChild]
    omega
  | @mqReceive client request queue receives queued =>
    have sum := numbered.total_forwarder receives (by simp) (.holding request)
    simp only [Forwarder.work] at sum
    simp only [work, setForwarder, queued, List.length_cons]
    omega
  | @writeServer client request holds =>
    have sum := numbered.total_forwarder holds (by simp) .awaiting
    simp only [Forwarder.work] at sum
    simp only [work, setForwarder, List.length_append, List.length_singleton]
    omega
  | serve sent =>
    simp only [work, sent, List.length_cons, List.length_append, List.length_nil]
    omega
  | @readServer client reply fromServer awaits arrived =>
    have sum := numbered.total_forwarder awaits (by simp) (.replying reply)
    simp only [Forwarder.work] at sum
    simp only [work, setForwarder, arrived, List.length_cons]
    omega
  | @writePipe client reply replies =>
    have sum := numbered.total_forwarder replies (by simp) .receiving
    simp only [Forwarder.work] at sum
    simp only [work, setForwarder, List.length_append, List.length_singleton]
    omega
  | @readPipe client request reply pipe waits piped =>
    have sum := numbered.total_child waits (by simp) (.answering request reply)
    simp only [Child.work] at sum
    simp only [work, setChild, piped, List.length_cons]
    omega
  | @writeClient client request reply answers =>
    have sum := numbered.total_child answers (by simp) .reading
    simp only [Child.work] at sum
    simp only [work, setChild]
    omega

/-! ### Rest -/

variable (respond) in
/-- Nothing but a new connection or a new request can come next. -/
def AtRest (relay : Relay ServerState) : Prop :=
  ∀ action, action.isInternal = true → relay.step respond action = none

/-- Every posted request was answered to some client, and every child reads its client's socket
unless it has found no queue. -/
structure Settled (relay : Relay ServerState) : Prop where
  answered : relay.posted.Perm (relay.delivered.map fun delivery => delivery.reply.request)
  reading : ∀ client < relay.accepted,
    relay.children client = .reading ∨ relay.children client = .exited

/-- A forwarder at rest waits for a request or for a reply. -/
theorem AtRest.forwarder (rest : relay.AtRest respond) (client : Nat) :
    relay.forwarders client = .absent ∨ relay.forwarders client = .receiving ∨
      relay.forwarders client = .awaiting := by
  cases equal : relay.forwarders client with
  | absent => exact .inl rfl
  | receiving => exact .inr (.inl rfl)
  | awaiting => exact .inr (.inr rfl)
  | starting =>
    have stays := rest (.forwarderOpens client) rfl
    simp only [step, equal] at stays
    cases stays
  | holding request =>
    have stays := rest (.writeServer client) rfl
    simp only [step, equal] at stays
    cases stays
  | replying reply =>
    have stays := rest (.writePipe client) rfl
    simp only [step, equal] at stays
    cases stays

/-- A child at rest waits for a request or a reply, or for the queue to have room. -/
theorem AtRest.child (rest : relay.AtRest respond) (client : Nat) :
    relay.children client = .absent ∨ relay.children client = .reading ∨
      relay.children client = .exited ∨ (∃ request, relay.children client = .waiting request) ∨
        ∃ request, relay.children client = .sending request := by
  cases equal : relay.children client with
  | absent => exact .inl rfl
  | reading => exact .inr (.inl rfl)
  | exited => exact .inr (.inr (.inl rfl))
  | waiting request => exact .inr (.inr (.inr (.inl ⟨request, rfl⟩)))
  | sending request => exact .inr (.inr (.inr (.inr ⟨request, rfl⟩)))
  | starting =>
    have stays := rest (.childOpens client) rfl
    simp only [step, equal] at stays
    cases stays
  | answering request reply =>
    have stays := rest (.writeClient client) rfl
    simp only [step, equal] at stays
    cases stays

theorem AtRest.carries (rest : relay.AtRest respond) (client : Nat) :
    (relay.forwarders client).carries = 0 := by
  rcases rest.forwarder client with equal | equal | equal <;> rw [equal] <;> rfl

theorem AtRest.toServer (rest : relay.AtRest respond) : relay.toServer = [] := by
  cases sent : relay.toServer with
  | nil => rfl
  | cons request toServer =>
    have stays := rest .serve rfl
    simp only [step, sent] at stays
    cases stays

/-- A reply on the connection would be read by one of the forwarders that wait for it. -/
theorem AtRest.fromServer (rest : relay.AtRest respond) (even : relay.Even) :
    relay.fromServer = [] := by
  cases arrived : relay.fromServer with
  | nil => rfl
  | cons reply fromServer =>
    have positive : 0 < total Forwarder.awaits relay.forwarders relay.forwarding := by
      rw [even.awaiting, arrived, List.length_cons]
      omega
    obtain ⟨client, -, awaits⟩ := exists_of_total_pos positive
    rcases rest.forwarder client with equal | equal | equal
    · exact absurd awaits (by rw [equal]; decide)
    · exact absurd awaits (by rw [equal]; decide)
    · have stays := rest (.readServer client) rfl
      simp only [step, equal, arrived] at stays
      cases stays

/-- A reply in the pipe would be read by one of the children that wait for it. -/
theorem AtRest.pipe (rest : relay.AtRest respond) (even : relay.Even) : relay.pipe = [] := by
  cases piped : relay.pipe with
  | nil => rfl
  | cons reply pipe =>
    have positive : 0 < total Child.waits relay.children relay.accepted := by
      rw [even.waiting, piped, List.length_cons]
      omega
    obtain ⟨client, -, waits⟩ := exists_of_total_pos positive
    obtain ⟨request, equal⟩ : ∃ request, relay.children client = .waiting request := by
      cases equal : relay.children client with
      | waiting request => exact ⟨request, rfl⟩
      | _ => exact absurd (equal ▸ waits) (lt_irrefl 0)
    have stays := rest (.readPipe client) rfl
    simp only [step, equal, piped] at stays
    cases stays

/-- A request in the queue would be received by the forwarder of the client that has posted it. -/
theorem AtRest.queue (rest : relay.AtRest respond) (even : relay.Even) : relay.queue = [] := by
  cases queued : relay.queue with
  | nil => rfl
  | cons request queue =>
    have positive : 0 < total Child.waits relay.children relay.accepted := by
      rw [even.waiting, queued, List.length_cons]
      omega
    obtain ⟨client, bound, -⟩ := exists_of_total_pos positive
    have forked : ¬relay.forwarding < relay.accepted := by
      intro turn
      have stays := rest .fork rfl
      simp only [step, if_pos turn] at stays
      cases stays
    have there := even.present client (bound.trans_le (not_lt.mp forked))
    have nobody : total Forwarder.awaits relay.forwarders relay.forwarding = 0 := by
      rw [even.awaiting, rest.toServer, rest.fromServer even]
      rfl
    rcases rest.forwarder client with equal | equal | equal
    · exact absurd equal there
    · have stays := rest (.mqReceive client) rfl
      simp only [step, equal, queued] at stays
      cases stays
    · have awaited := Finset.sum_eq_zero_iff.mp nobody client
        (Finset.mem_range.mpr (bound.trans_le (not_lt.mp forked)))
      rw [equal] at awaited
      cases awaited

theorem AtRest.held (rest : relay.AtRest respond) : relay.held = [] := by
  refine List.filterMap_eq_nil_iff.mpr fun client _ => ?_
  rcases rest.forwarder client with equal | equal | equal <;> rw [equal] <;> rfl

theorem AtRest.inTransit (rest : relay.AtRest respond) (even : relay.Even) :
    relay.inTransit = [] := by
  have fetched : relay.fetched = [] := by
    refine List.filterMap_eq_nil_iff.mpr fun client _ => ?_
    rcases rest.forwarder client with equal | equal | equal <;> rw [equal] <;> rfl
  have taken : relay.taken = [] := by
    refine List.filterMap_eq_nil_iff.mpr fun client _ => ?_
    rcases rest.child client with equal | equal | equal | ⟨request, equal⟩ | ⟨request, equal⟩ <;>
      rw [equal] <;> rfl
  rw [Relay.inTransit, rest.fromServer even, fetched, rest.pipe even, taken]
  rfl

/-- When nothing can move, every request is answered. -/
theorem AtRest.settled (rest : relay.AtRest respond) (even : relay.Even)
    (postable : relay.Postable) (conserved : relay.Conserved) : relay.Settled := by
  have queue := rest.queue even
  have nobody : total Child.waits relay.children relay.accepted = 0 := by
    have idle : total Forwarder.carries relay.forwarders relay.forwarding = 0 :=
      Finset.sum_eq_zero fun client _ => rest.carries client
    rw [even.waiting, queue, rest.toServer, rest.fromServer even, rest.pipe even, idle]
    rfl
  refine ⟨?_, fun client bound => ?_⟩
  · have delivered : relay.answered.Perm (relay.delivered.map Delivery.reply) := by
      have everything := conserved.lossless
      rw [rest.inTransit even, List.append_nil] at everything
      exact everything
    have posted : relay.posted.Perm (relay.answered.map Reply.request) := by
      refine List.perm_iff_count.mpr fun request => ?_
      rw [conserved.posted, queue, rest.held, rest.toServer]
      rfl
    have requests := posted.trans (delivered.map Reply.request)
    rwa [List.map_map] at requests
  · rcases rest.child client with equal | equal | equal | ⟨request, equal⟩ | ⟨request, equal⟩
    · exact absurd equal (even.connected client bound)
    · exact .inl equal
    · exact .inr equal
    · have waited := Finset.sum_eq_zero_iff.mp nobody client (Finset.mem_range.mpr bound)
      rw [equal] at waited
      cases waited
    · have stays := rest (.mqSend client) rfl
      have room : relay.queue.length < MAX_MESSAGES := by
        rw [queue]
        decide
      simp only [step, equal, if_pos (postable client request equal), if_pos room] at stays
      cases stays

/-! ### The runs -/

theorem even_run (actions : List RelayStep) {final : Relay ServerState} (even : relay.Even)
    (numbered : relay.Numbered) (postable : relay.Postable) (conserved : relay.Conserved)
    (fit : ∀ action ∈ actions, action.fits = true)
    (ran : run respond actions relay = some final) :
    final.Even ∧ final.Numbered ∧ final.Postable ∧ final.Conserved := by
  induction actions generalizing relay with
  | nil =>
    cases ran
    exact ⟨even, numbered, postable, conserved⟩
  | cons action actions inductionHypothesis =>
    obtain ⟨next, stepped, rest⟩ := Option.bind_eq_some_iff.mp ran
    obtain ⟨fits, others⟩ := List.forall_mem_cons.mp fit
    exact inductionHypothesis (even.step numbered postable stepped) (numbered.step stepped)
      (postable.step fits stepped) (conserved.step numbered stepped) others rest

/-- Steps that are neither new connections nor new requests are at most as many as the work. -/
theorem length_le_work (actions : List RelayStep) {final : Relay ServerState}
    (numbered : relay.Numbered) (internal : ∀ action ∈ actions, action.isInternal = true)
    (ran : run respond actions relay = some final) : actions.length ≤ relay.work := by
  induction actions generalizing relay with
  | nil => exact Nat.zero_le _
  | cons action actions inductionHypothesis =>
    obtain ⟨next, stepped, rest⟩ := Option.bind_eq_some_iff.mp ran
    have shorter := inductionHypothesis (numbered.step stepped)
      (fun other member => internal other (List.mem_cons_of_mem _ member)) rest
    have lower := work_lt numbered (internal action List.mem_cons_self) stepped
    rw [List.length_cons]
    omega

variable (respond) in
/-- However the relay goes on without new connections and new requests, it comes to rest, and when
it is at rest every request is answered. -/
structure Settles (relay : Relay ServerState) : Prop where
  bounded : ∀ actions final, (∀ action ∈ actions, action.isInternal = true) →
    run respond actions relay = some final → actions.length ≤ relay.work
  settled : relay.AtRest respond → relay.Settled

/-- The relay never gets stuck, for any number of clients, any data server that answers every frame
and all interleavings, if every request that is read fits a message of the queue. -/
theorem settles_of_run (respond : ServerState → Text → Text × ServerState) (server : ServerState)
    (queueExists : Bool) (actions : List RelayStep) (relay : Relay ServerState)
    (fit : ∀ action ∈ actions, action.fits = true)
    (ran : run respond actions (start server queueExists) = some relay) :
    relay.Settles respond := by
  obtain ⟨even, numbered, postable, conserved⟩ := even_run actions
    (even_start server queueExists) (numbered_start server queueExists)
    (postable_start server queueExists) (conserved_start server queueExists) fit ran
  exact ⟨fun more final internal goes => length_le_work more numbered internal goes,
    fun rest => rest.settled even postable conserved⟩

/-- Both children have posted, and the second one is the first to read the pipe. -/
theorem settles_of_run_crossed :
    ∃ relay, run echo (twoClients ++ [.mqSend 0, .mqSend 1] ++ roundTrip 0 ++ [.readPipe 1])
        (start 0 false) = some relay ∧ relay.work = 8 ∧ relay.Settles echo := by
  have ran : (run echo (twoClients ++ [.mqSend 0, .mqSend 1] ++ roundTrip 0 ++ [.readPipe 1])
      (start 0 false)).map work = some 8 := by
    decide
  obtain ⟨relay, ran, left⟩ := Option.map_eq_some_iff.mp ran
  exact ⟨relay, ran, left, settles_of_run echo 0 false _ relay (by decide) ran⟩

end Relay

end OnlineStore
