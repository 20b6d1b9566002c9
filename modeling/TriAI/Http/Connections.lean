import Mathlib.Data.Fintype.Card
import TriAI.Library.Interaction

/-!
Contract: how many connections are served at once (`serve_with_catalog` of `http.rs`).

Owns: the counter `ACTIVE_CONNECTIONS`, the loop that accepts connections, the threads that
serve them, and what the counter says in every interleaving of any number of servers of one
process with their threads.

Does not own: what a connection is about. A panic unwinds, as in the workspace's builds: a thread
that panics never gives its slot back, and a server whose thread cannot be started stops.
-/

set_option autoImplicit false

namespace TriAI.Http

open TriAI.Library.Interaction

/-- `MAX_ACTIVE_CONNECTIONS`. -/
def maxActiveConnections : UInt64 := 64

/-- The calls of the loop and of the threads. -/
inductive ConnectionOp where
  /-- `ACTIVE_CONNECTIONS.fetch_add(1)`. -/
  | fetchAdd
  /-- `ACTIVE_CONNECTIONS.fetch_sub(1)`. -/
  | fetchSub
  /-- `std::thread::spawn`, which panics if there is no thread to be had. -/
  | spawn
  /-- A thread begins. -/
  | start
  /-- `handle_connection`, and whether it returns. -/
  | handle

@[reducible] def ConnectionOp.Reply : ConnectionOp → Type
  | .fetchAdd => UInt64
  | .fetchSub | .start => Unit
  | .spawn | .handle => Bool

inductive ConnectionState where
  | listening
  | stopped
  | waiting
  | ended
  | panicked
deriving DecidableEq

abbrev ConnectionProg : Type := Prog ConnectionOp ConnectionOp.Reply ConnectionState

/-- One round of the loop of `serve_with_catalog`. -/
def acceptOne : ConnectionProg := do
  let active : UInt64 ← Prog.perform ConnectionOp.fetchAdd
  if active ≥ maxActiveConnections then
    Prog.perform ConnectionOp.fetchSub
    pure .listening
  else do
    let started : Bool ← Prog.perform ConnectionOp.spawn
    pure (if started then .listening else .stopped)

/-- The thread of a connection. -/
def connectionThread : ConnectionProg := do
  Prog.perform ConnectionOp.start
  let returned : Bool ← Prog.perform ConnectionOp.handle
  if returned then do
    Prog.perform ConnectionOp.fetchSub
    pure .ended
  else pure .panicked

/-! ## Servers and threads -/

/-- The loops of the servers, and the threads in the order in which they are spawned. -/
inductive Party (servers : Nat) where
  | server (number : Fin servers)
  | thread (number : Nat)
deriving DecidableEq

/-- The counter, and how many threads have been spawned. The sets only record who has added
to the counter. -/
structure ConnectionWorld (servers : Nat) where
  active : UInt64 := 0
  spawned : Nat := 0
  threads : Finset Nat := ∅
  granted : Finset (Fin servers) := ∅
  refused : Finset (Fin servers) := ∅

section System

variable {servers : Nat}

/-- A call by a server or a thread. -/
def ConnectionWorld.Answers (world : ConnectionWorld servers) :
    Party servers → (op : ConnectionOp) → op.Reply → ConnectionWorld servers → Prop
  | .server number, .fetchAdd, reply, after =>
      reply = world.active ∧ after = { world with
        active := world.active + 1
        granted := if reply ≥ maxActiveConnections then world.granted
          else insert number world.granted
        refused := if reply ≥ maxActiveConnections then insert number world.refused
          else world.refused }
  | .server number, .fetchSub, _, after => after = { world with
      active := world.active - 1
      refused := world.refused.erase number }
  | .server number, .spawn, started, after =>
      after = if started then { world with
          spawned := world.spawned + 1
          threads := insert world.spawned world.threads
          granted := world.granted.erase number }
        else world
  | .thread number, .start, _, after => number < world.spawned ∧ after = world
  | .thread _, .handle, _, after => after = world
  | .thread number, .fetchSub, _, after => after = { world with
      active := world.active - 1
      threads := world.threads.erase number }
  | _, _, _, _ => False

/-- Any number of servers that accept connections, and their threads. -/
def connectionSystem (servers : Nat) :
    System (Party servers) ConnectionOp ConnectionOp.Reply ConnectionState
      (ConnectionWorld servers) where
  Offers := fun party state program =>
    match party with
    | .server _ => state = .listening ∧ program = acceptOne
    | .thread _ => state = .waiting ∧ program = connectionThread
  Step := fun party world => world.Answers party
  Environment := fun _ _ => False

abbrev ConnectionPool (servers : Nat) : Type :=
  Pool (Party servers) ConnectionOp ConnectionOp.Reply ConnectionState (ConnectionWorld servers)

/-- No connection has come. -/
def idleServers (servers : Nat) : ConnectionPool servers where
  world := {}
  activity := fun party =>
    match party with
    | .server _ => .resting .listening
    | .thread _ => .resting .waiting

/-- A connection has a slot: its thread has been spawned and has not given the slot back. -/
def HasSlot (pool : ConnectionPool servers) (number : Nat) : Prop :=
  number < pool.world.spawned ∧ pool.activity (.thread number) ≠ .resting .ended ∧
    pool.activity (.thread number) ≠ .running (.ret .ended)

/-- A server has added to the counter and has neither handed the slot on nor given it back. -/
def Deciding (pool : ConnectionPool servers) (number : Fin servers) : Prop :=
  pool.activity (.server number) = .resting .stopped ∨
    pool.activity (.server number) = .running (.ret .stopped) ∨
    ∃ op next, pool.activity (.server number) = .running (.call op next) ∧ op ≠ .fetchAdd

/-! ## Views -/

/-- How far a server or a thread has come. -/
inductive ConnectionView where
  | listens
  | granted
  | refused
  | waits
  | serves
  | ended
deriving DecidableEq

def ConnectionView.OfServer : ConnectionView → Prop
  | .listens | .granted | .refused => True
  | .waits | .serves | .ended => False

/-- Who may call what, and how far it is then. -/
def connectionContract : Contract ConnectionOp ConnectionOp.Reply ConnectionView where
  Admits := fun view op =>
    match op with
    | .fetchAdd => view = .listens
    | .fetchSub => view = .refused ∨ view = .serves
    | .spawn => view = .granted
    | .start => view = .waits
    | .handle => view = .serves
  Answers := fun view op reply after =>
    match op with
    | .fetchAdd => after = if reply ≥ maxActiveConnections then .refused else .granted
    | .fetchSub => after = if view = .refused then .listens else .ended
    | .spawn => after = if reply then .listens else .granted
    | .start => after = .serves
    | .handle => after = view

/-- How far a server or a thread at rest is. -/
def ConnectionRest : ConnectionState → ConnectionView → Prop
  | .listening, view => view = .listens
  | .stopped, view => view = .granted
  | .waiting, view => view = .waits
  | .ended, view => view = .ended
  | .panicked, view => view = .serves

theorem acceptOne_wlp : wlp connectionContract acceptOne ConnectionRest .listens := by
  refine ⟨rfl, fun active view learned => ?_⟩
  by_cases full : active ≥ maxActiveConnections
  · obtain rfl : view = .refused := learned.trans (if_pos full)
    show wlp _ (if active ≥ maxActiveConnections then _ else _) _ _
    rw [if_pos full]
    exact ⟨.inl rfl, fun _ view learned => learned⟩
  · obtain rfl : view = .granted := learned.trans (if_neg full)
    show wlp _ (if active ≥ maxActiveConnections then _ else _) _ _
    rw [if_neg full]
    refine ⟨rfl, fun started view learned => ?_⟩
    cases started with
    | true => exact learned
    | false => exact learned

theorem connectionThread_wlp : wlp connectionContract connectionThread ConnectionRest .waits := by
  refine ⟨rfl, fun _ view learned => ?_⟩
  obtain rfl : view = .serves := learned
  refine ⟨rfl, fun returned view same => ?_⟩
  obtain rfl : view = .serves := same
  cases returned with
  | true => exact ⟨.inr rfl, fun _ view learned => learned⟩
  | false => rfl

/-! ## Invariant -/

/-- Everything in the counter belongs to somebody. -/
structure Accounts (world : ConnectionWorld servers) (views : Party servers → ConnectionView) :
    Prop where
  server : ∀ number, (views (.server number)).OfServer
  thread : ∀ number, ¬ (views (.thread number)).OfServer
  granted : ∀ number, number ∈ world.granted ↔ views (.server number) = .granted
  refused : ∀ number, number ∈ world.refused ↔ views (.server number) = .refused
  threads : ∀ number, number ∈ world.threads ↔
    number < world.spawned ∧ views (.thread number) ≠ .ended
  unborn : ∀ number, world.spawned ≤ number → views (.thread number) = .waits
  active : world.active.toNat = world.threads.card + world.granted.card + world.refused.card
  limit : world.threads.card + world.granted.card ≤ 64

theorem idleServers_safe :
    (idleServers servers).Safe connectionContract ConnectionRest Accounts := by
  refine ⟨fun party => match party with | .server _ => .listens | .thread _ => .waits, ?_, ?_⟩
  · constructor <;> simp [idleServers, ConnectionView.OfServer]
  · intro party
    cases party with
    | server number => rfl
    | thread number => rfl

section Steps

variable {world after : ConnectionWorld servers} {views : Party servers → ConnectionView}

/-- There is room in the counter for one more. -/
private theorem Accounts.bounded (accounts : Accounts world views)
    (few : servers + 65 < 2 ^ 64) : world.active.toNat + 1 < 2 ^ 64 := by
  have atMost : world.refused.card ≤ servers := by simpa using Finset.card_le_univ world.refused
  have limit := accounts.limit
  have active := accounts.active
  omega

/-- A server goes on, and no thread does. -/
private theorem Accounts.moveServer (accounts : Accounts world views) {number : Fin servers}
    {view : ConnectionView} (isServer : view.OfServer) (spawned : after.spawned = world.spawned)
    (threads : after.threads = world.threads)
    (granted : ∀ other, other ∈ after.granted ↔
      if other = number then view = .granted else other ∈ world.granted)
    (refused : ∀ other, other ∈ after.refused ↔
      if other = number then view = .refused else other ∈ world.refused)
    (active : after.active.toNat = after.threads.card + after.granted.card + after.refused.card)
    (limit : after.threads.card + after.granted.card ≤ 64) :
    Accounts after (Function.update views (.server number) view) where
  server := by
    intro other
    by_cases same : other = number
    · subst same
      simpa using isServer
    · simpa [Function.update_apply, same] using accounts.server other
  thread := by
    intro other
    simpa [Function.update_apply] using accounts.thread other
  granted := by
    intro other
    rw [granted]
    by_cases same : other = number
    · simp [same]
    · simpa [Function.update_apply, same] using accounts.granted other
  refused := by
    intro other
    rw [refused]
    by_cases same : other = number
    · simp [same]
    · simpa [Function.update_apply, same] using accounts.refused other
  threads := by
    intro other
    rw [spawned, threads]
    simpa [Function.update_apply] using accounts.threads other
  unborn := by
    intro other unborn
    rw [spawned] at unborn
    simpa [Function.update_apply] using accounts.unborn other unborn
  active := active
  limit := limit

private theorem Accounts.fetchAdd (accounts : Accounts world views)
    (few : servers + 65 < 2 ^ 64) {number : Fin servers} {reply : UInt64}
    (listens : views (.server number) = .listens)
    (answered : world.Answers (.server number) .fetchAdd reply after) :
    Accounts after (Function.update views (.server number)
      (if reply ≥ maxActiveConnections then .refused else .granted)) := by
  obtain ⟨rfl, rfl⟩ := answered
  have notGranted : number ∉ world.granted := by simp [accounts.granted, listens]
  have notRefused : number ∉ world.refused := by simp [accounts.refused, listens]
  have bounded := accounts.bounded few
  have active := accounts.active
  have increased : (world.active + 1).toNat = world.active.toNat + 1 := by
    rw [UInt64.toNat_add]
    exact Nat.mod_eq_of_lt bounded
  by_cases full : world.active ≥ maxActiveConnections
  · simp only [if_pos full]
    refine accounts.moveServer trivial rfl rfl ?_ ?_ ?_ ?_
    · intro other
      by_cases same : other = number
      · simp [same, notGranted]
      · simp [same]
    · intro other
      by_cases same : other = number <;> simp [same]
    · rw [increased, Finset.card_insert_of_notMem notRefused, active]
      exact Nat.add_assoc ..
    · exact accounts.limit
  · have room : world.active.toNat < 64 := by
      simpa [maxActiveConnections, UInt64.lt_iff_toNat_lt] using full
    simp only [if_neg full]
    refine accounts.moveServer trivial rfl rfl ?_ ?_ ?_ ?_
    · intro other
      by_cases same : other = number <;> simp [same]
    · intro other
      by_cases same : other = number
      · simp [same, notRefused]
      · simp [same]
    · rw [increased, Finset.card_insert_of_notMem notGranted]
      show _ = world.threads.card + (world.granted.card + 1) + world.refused.card
      omega
    · rw [Finset.card_insert_of_notMem notGranted]
      show world.threads.card + (world.granted.card + 1) ≤ 64
      omega

/-- There is something to take from the counter. -/
private theorem decreased {active : UInt64} (positive : 0 < active.toNat) :
    (active - 1).toNat = active.toNat - 1 := by
  apply UInt64.toNat_sub_of_le
  rw [UInt64.le_iff_toNat_le]
  exact positive

/-- A server that was refused a slot takes its own addition back. -/
private theorem Accounts.refuse (accounts : Accounts world views) {number : Fin servers}
    (refused : views (.server number) = .refused)
    (answered : world.Answers (.server number) .fetchSub () after) :
    Accounts after (Function.update views (.server number) .listens) := by
  obtain rfl := answered
  have isRefused : number ∈ world.refused := (accounts.refused number).mpr refused
  have notGranted : number ∉ world.granted := by simp [accounts.granted, refused]
  have some_refused : 0 < world.refused.card := Finset.card_pos.mpr ⟨number, isRefused⟩
  have active := accounts.active
  refine accounts.moveServer trivial rfl rfl ?_ ?_ ?_ ?_
  · intro other
    by_cases same : other = number
    · simp [same, notGranted]
    · simp [same]
  · intro other
    by_cases same : other = number <;> simp [same]
  · rw [decreased (by omega), Finset.card_erase_of_mem isRefused]
    show world.active.toNat - 1 = world.threads.card + world.granted.card + _
    omega
  · exact accounts.limit

/-- A server hands its slot to a thread. -/
private theorem Accounts.spawn (accounts : Accounts world views) {number : Fin servers}
    (granted : views (.server number) = .granted) {started : Bool}
    (answered : world.Answers (.server number) .spawn started after) :
    Accounts after (Function.update views (.server number)
      (if started then .listens else .granted)) := by
  obtain rfl := answered
  cases started with
  | false =>
      have same : Function.update views (.server number) .granted = views := by
        rw [← granted]
        exact Function.update_eq_self ..
      simpa [same] using accounts
  | true =>
      have isGranted : number ∈ world.granted := (accounts.granted number).mpr granted
      have notRefused : number ∉ world.refused := by simp [accounts.refused, granted]
      have fresh : world.spawned ∉ world.threads := by simp [accounts.threads]
      have some_granted : 0 < world.granted.card := Finset.card_pos.mpr ⟨number, isGranted⟩
      have active := accounts.active
      have limit := accounts.limit
      simp only [if_true]
      constructor
      · intro other
        by_cases same : other = number
        · simp [same, ConnectionView.OfServer]
        · simpa [Function.update_apply, same] using accounts.server other
      · intro other
        simpa [Function.update_apply] using accounts.thread other
      · intro other
        by_cases same : other = number
        · simp [same]
        · simpa [Function.update_apply, same] using accounts.granted other
      · intro other
        by_cases same : other = number
        · simp [same, notRefused]
        · simpa [Function.update_apply, same] using accounts.refused other
      · intro other
        by_cases isNew : other = world.spawned
        · simp [isNew, accounts.unborn world.spawned (Nat.le_refl _)]
        · have older : other < world.spawned + 1 ↔ other < world.spawned := by omega
          simpa [Function.update_apply, isNew, older] using accounts.threads other
      · intro other unborn
        simpa [Function.update_apply] using accounts.unborn other (Nat.le_of_succ_le unborn)
      · rw [Finset.card_insert_of_notMem fresh, Finset.card_erase_of_mem isGranted]
        show world.active.toNat = _ + world.refused.card
        omega
      · rw [Finset.card_insert_of_notMem fresh, Finset.card_erase_of_mem isGranted]
        omega

/-- A thread that was spawned goes on. -/
private theorem Accounts.serve (accounts : Accounts world views) {number : Nat}
    (spawned : number < world.spawned) (notEnded : views (.thread number) ≠ .ended) :
    Accounts world (Function.update views (.thread number) .serves) where
  server := by
    intro other
    simpa [Function.update_apply] using accounts.server other
  thread := by
    intro other
    by_cases same : other = number
    · simp [same, ConnectionView.OfServer]
    · simpa [Function.update_apply, same] using accounts.thread other
  granted := by
    intro other
    simpa [Function.update_apply] using accounts.granted other
  refused := by
    intro other
    simpa [Function.update_apply] using accounts.refused other
  threads := by
    intro other
    by_cases same : other = number
    · simp [same, accounts.threads, spawned, notEnded]
    · simpa [Function.update_apply, same] using accounts.threads other
  unborn := by
    intro other unborn
    have different : other ≠ number := by omega
    simpa [Function.update_apply, different] using accounts.unborn other unborn
  active := accounts.active
  limit := accounts.limit

/-- A thread gives its slot back. -/
private theorem Accounts.giveBack (accounts : Accounts world views) {number : Nat}
    (serves : views (.thread number) = .serves)
    (answered : world.Answers (.thread number) .fetchSub () after) :
    Accounts after (Function.update views (.thread number) .ended) := by
  obtain rfl := answered
  have spawned : number < world.spawned := by
    by_contra unborn
    rw [accounts.unborn number (by omega)] at serves
    cases serves
  have isThread : number ∈ world.threads := by
    rw [accounts.threads, serves]
    exact ⟨spawned, by simp⟩
  have some_threads : 0 < world.threads.card := Finset.card_pos.mpr ⟨number, isThread⟩
  have active := accounts.active
  have limit := accounts.limit
  constructor
  · intro other
    simpa [Function.update_apply] using accounts.server other
  · intro other
    by_cases same : other = number
    · simp [same, ConnectionView.OfServer]
    · simpa [Function.update_apply, same] using accounts.thread other
  · intro other
    simpa [Function.update_apply] using accounts.granted other
  · intro other
    simpa [Function.update_apply] using accounts.refused other
  · intro other
    by_cases same : other = number
    · simp [same]
    · simpa [Function.update_apply, same] using accounts.threads other
  · intro other unborn
    have different : other ≠ number := by
      have older : world.spawned ≤ other := unborn
      omega
    simpa [Function.update_apply, different] using accounts.unborn other unborn
  · rw [decreased (by omega), Finset.card_erase_of_mem isThread]
    show world.active.toNat - 1 = _ + world.granted.card + world.refused.card
    omega
  · rw [Finset.card_erase_of_mem isThread]
    show _ + world.granted.card ≤ 64
    omega

end Steps

/-- Every call keeps the accounts. -/
theorem connectionSystem_respects (few : servers + 65 < 2 ^ 64) :
    (connectionSystem servers).Respects connectionContract ConnectionRest Accounts where
  offered := by
    intro party state program view rest offered
    cases party with
    | server number =>
        obtain ⟨rfl, rfl⟩ := offered
        obtain rfl : view = .listens := rest
        exact acceptOne_wlp
    | thread number =>
        obtain ⟨rfl, rfl⟩ := offered
        obtain rfl : view = .waits := rest
        exact connectionThread_wlp
  step := by
    intro party world views op reply after accounts admitted answered
    cases party with
    | server number =>
        cases op with
        | fetchAdd => exact ⟨_, rfl, accounts.fetchAdd few admitted answered⟩
        | fetchSub =>
            have refused : views (.server number) = .refused := by
              rcases admitted with refused | serves
              · exact refused
              · have isServer := accounts.server number
                rw [serves] at isServer
                exact isServer.elim
            exact ⟨.listens, (if_pos refused).symm, accounts.refuse refused answered⟩
        | spawn => exact ⟨_, rfl, accounts.spawn admitted answered⟩
        | start => exact answered.elim
        | handle => exact answered.elim
    | thread number =>
        cases op with
        | fetchAdd => exact answered.elim
        | fetchSub =>
            have notServer := accounts.thread number
            have notRefused : views (.thread number) ≠ .refused := by
              intro refused
              rw [refused] at notServer
              exact notServer trivial
            have serves := admitted.resolve_left notRefused
            exact ⟨.ended, (if_neg notRefused).symm, accounts.giveBack serves answered⟩
        | spawn => exact answered.elim
        | start =>
            obtain ⟨spawned, rfl⟩ := answered
            have waits : views (.thread number) = .waits := admitted
            exact ⟨.serves, rfl, accounts.serve spawned (by simp [waits])⟩
        | handle =>
            obtain rfl := answered
            refine ⟨_, rfl, ?_⟩
            rw [Function.update_eq_self]
            exact accounts
  environment := fun _ _ _ _ impossible => impossible.elim

/-! ## What the counter says -/

/-- How far a party at rest is tells whether it has ended. -/
private theorem rest_ended {state : ConnectionState} {view : ConnectionView}
    (rest : ConnectionRest state view) : view = .ended ↔ state = .ended := by
  cases state <;> simp_all [ConnectionRest]

private theorem rest_stopped {state : ConnectionState} {view : ConnectionView}
    (rest : ConnectionRest state view) : view = .granted ↔ state = .stopped := by
  cases state <;> simp_all [ConnectionRest]

private theorem rest_refused {state : ConnectionState} {view : ConnectionView}
    (rest : ConnectionRest state view) : view ≠ .refused := by
  cases state <;> simp_all [ConnectionRest]

section Pools

variable {pool : ConnectionPool servers} {views : Party servers → ConnectionView}

/-- A thread that was spawned has its slot until it has given it back. -/
private theorem Accounts.hasSlot_iff (accounts : Accounts pool.world views)
    (meets : ∀ party, (pool.activity party).Meets connectionContract ConnectionRest (views party))
    (number : Nat) : number ∈ pool.world.threads ↔ HasSlot pool number := by
  rw [accounts.threads, HasSlot]
  refine and_congr_right fun _ => ?_
  have owed := meets (.thread number)
  cases activity : pool.activity (.thread number) with
  | resting state =>
      rw [activity] at owed
      simpa using not_congr (rest_ended owed)
  | running program =>
      rw [activity] at owed
      cases program with
      | ret state => simpa using not_congr (rest_ended owed)
      | call op next =>
          have admitted : connectionContract.Admits (views (.thread number)) op := owed.1
          have notEnded : views (.thread number) ≠ .ended := by
            intro ended
            rw [ended] at admitted
            cases op <;> simp [connectionContract] at admitted
          simpa using notEnded

/-- A server that has added to the counter has yet to decide. -/
private theorem Accounts.deciding_iff (accounts : Accounts pool.world views)
    (meets : ∀ party, (pool.activity party).Meets connectionContract ConnectionRest (views party))
    (number : Fin servers) :
    number ∈ pool.world.granted ∪ pool.world.refused ↔ Deciding pool number := by
  rw [Finset.mem_union, accounts.granted, accounts.refused, Deciding]
  have owed := meets (.server number)
  have isServer := accounts.server number
  cases activity : pool.activity (.server number) with
  | resting state =>
      rw [activity] at owed
      simpa [rest_refused owed] using rest_stopped owed
  | running program =>
      rw [activity] at owed
      cases program with
      | ret state => simpa [rest_refused owed] using rest_stopped owed
      | call op next =>
          have admitted : connectionContract.Admits (views (.server number)) op := owed.1
          cases op with
          | fetchAdd =>
              have listens : views (.server number) = .listens := admitted
              simp [listens]
          | fetchSub =>
              rcases admitted with refused | serves
              · simp [refused]
              · rw [serves] at isServer
                exact isServer.elim
          | spawn =>
              have granted : views (.server number) = .granted := admitted
              simp [granted]
          | start =>
              have waits : views (.server number) = .waits := admitted
              rw [waits] at isServer
              exact isServer.elim
          | handle =>
              have serves : views (.server number) = .serves := admitted
              rw [serves] at isServer
              exact isServer.elim

end Pools

/-- In every interleaving at most 64 connections have a slot, and the counter is their number
and that of the servers that have added to it and not decided yet. -/
theorem connections_counted (few : servers + 65 < 2 ^ 64) {pool : ConnectionPool servers}
    (reachable : (connectionSystem servers).Reachable (idleServers servers) pool) :
    ∃ (slots : Finset Nat) (deciding : Finset (Fin servers)),
      (∀ number, number ∈ slots ↔ HasSlot pool number) ∧
      (∀ number, number ∈ deciding ↔ Deciding pool number) ∧
      slots.card ≤ 64 ∧ pool.world.active.toNat = slots.card + deciding.card := by
  obtain ⟨views, accounts, meets⟩ :=
    reachable.safe (connectionSystem_respects few) idleServers_safe
  have apart : Disjoint pool.world.granted pool.world.refused := by
    rw [Finset.disjoint_left]
    intro number granted refused
    rw [accounts.granted] at granted
    rw [accounts.refused, granted] at refused
    cases refused
  refine ⟨pool.world.threads, pool.world.granted ∪ pool.world.refused,
    accounts.hasSlot_iff meets, accounts.deciding_iff meets, ?_, ?_⟩
  · have limit := accounts.limit
    omega
  · rw [Finset.card_union_of_disjoint apart, accounts.active]
    omega

/-! ## Slots that are lost -/

/-- A thread that has panicked stays where it is. -/
private theorem panicked_stays {pool later : ConnectionPool servers}
    (further : (connectionSystem servers).Reachable pool later) {number : Nat}
    (panicked : pool.activity (.thread number) = .resting .panicked) :
    later.activity (.thread number) = .resting .panicked := by
  induction further with
  | refl => exact panicked
  | tail _ moves inductionHypothesis =>
      cases moves with
      | @begin party state program atRest offered =>
          have elsewhere : Party.thread number ≠ party := by
            rintro rfl
            rw [inductionHypothesis] at atRest
            obtain rfl := Activity.resting.inj atRest
            exact absurd offered.1 (by simp)
          exact (Function.update_of_ne elsewhere ..).trans inductionHypothesis
      | @call party op next reply after calling answered =>
          have elsewhere : Party.thread number ≠ party := by
            rintro rfl
            rw [inductionHypothesis] at calling
            cases calling
          exact (Function.update_of_ne elsewhere ..).trans inductionHypothesis
      | @finish party state returned =>
          have elsewhere : Party.thread number ≠ party := by
            rintro rfl
            rw [inductionHypothesis] at returned
            cases returned
          exact (Function.update_of_ne elsewhere ..).trans inductionHypothesis
      | environment impossible => exact impossible.elim

/-- Each connection whose thread panics takes one of the 64 slots away for good: ever after
that many fewer connections have a slot at once, and the counter does not fall below them. -/
theorem slots_lost (few : servers + 65 < 2 ^ 64) {pool later : ConnectionPool servers}
    (reachable : (connectionSystem servers).Reachable (idleServers servers) pool)
    (further : (connectionSystem servers).Reachable pool later) {lost : Finset Nat}
    (panicked : ∀ number ∈ lost, pool.activity (.thread number) = .resting .panicked) :
    ∃ serving : Finset Nat, (∀ number, number ∈ serving ↔ HasSlot later number ∧ number ∉ lost) ∧
      serving.card + lost.card ≤ 64 ∧ serving.card + lost.card ≤ later.world.active.toNat := by
  have whole : (connectionSystem servers).Reachable (idleServers servers) later :=
    reachable.trans further
  obtain ⟨views, accounts, meets⟩ := whole.safe (connectionSystem_respects few) idleServers_safe
  have within : lost ⊆ later.world.threads := by
    intro number member
    have stays := panicked_stays further (panicked number member)
    have owed := meets (.thread number)
    rw [stays] at owed
    have serves : views (.thread number) = .serves := owed
    rw [accounts.threads, serves]
    refine ⟨?_, by simp⟩
    by_contra unborn
    rw [accounts.unborn number (by omega)] at serves
    cases serves
  have split : (later.world.threads \ lost).card + lost.card = later.world.threads.card :=
    Finset.card_sdiff_add_card_eq_card within
  refine ⟨later.world.threads \ lost, ?_, ?_, ?_⟩
  · intro number
    rw [Finset.mem_sdiff, accounts.hasSlot_iff meets]
  · have limit := accounts.limit
    omega
  · have active := accounts.active
    omega

end System

/-! ## A recorded run -/

/-- The first connection of a server panics. -/
private theorem panickedPool : ∃ pool : ConnectionPool 1,
    (connectionSystem 1).Reachable (idleServers 1) pool ∧
      pool.activity (.thread 0) = .resting .panicked := by
  have idle : (connectionSystem 1).Reachable (idleServers 1) (idleServers 1) := .refl
  have accepts := idle.begin (.server 0) acceptOne rfl ⟨rfl, rfl⟩
  have counted := accepts.call (.server 0) rfl 0 _ ⟨rfl, rfl⟩
  have spawned := counted.call (.server 0) rfl true _ rfl
  have listens := spawned.finish (.server 0) rfl
  have begun := listens.begin (.thread 0) connectionThread rfl ⟨rfl, rfl⟩
  have started := begun.call (.thread 0) rfl () _ ⟨Nat.zero_lt_one, rfl⟩
  have failed := started.call (.thread 0) rfl false _ rfl
  exact ⟨_, failed.finish (.thread 0) rfl, rfl⟩

theorem connections_counted_panicked : ∃ pool : ConnectionPool 1,
    pool.activity (.thread 0) = .resting .panicked ∧
    ∃ (slots : Finset Nat) (deciding : Finset (Fin 1)),
      (∀ number, number ∈ slots ↔ HasSlot pool number) ∧
      (∀ number, number ∈ deciding ↔ Deciding pool number) ∧
      slots.card ≤ 64 ∧ pool.world.active.toNat = slots.card + deciding.card := by
  obtain ⟨pool, reachable, panicked⟩ := panickedPool
  exact ⟨pool, panicked, connections_counted (by decide) reachable⟩

theorem slots_lost_panicked : ∃ (pool : ConnectionPool 1) (lost serving : Finset Nat),
    0 ∈ lost ∧ (∀ number, number ∈ serving ↔ HasSlot pool number ∧ number ∉ lost) ∧
      serving.card + lost.card ≤ 64 ∧
      serving.card + lost.card ≤ pool.world.active.toNat := by
  obtain ⟨pool, reachable, panicked⟩ := panickedPool
  obtain ⟨serving, counted⟩ :=
    slots_lost (by decide) reachable .refl (show ∀ number ∈ ({0} : Finset Nat), _ by
      simpa using panicked)
  exact ⟨pool, {0}, serving, Finset.mem_singleton_self 0, counted⟩

end TriAI.Http
