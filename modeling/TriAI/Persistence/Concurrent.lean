import Mathlib.Data.List.FinRange
import Mathlib.Data.List.OfFn
import TriAI.Persistence.CrashTolerance

/-!
Contract: appends to one session that run at the same time.

Owns: the interleavings of any number of appends, the condition that no write of one comes
between the two writes of another, and what `load` returns when all have ended.

Does not own: one append, and the lines of a log (`Persistence.RoundTrip`).

`append` writes the JSON text and the newline with two calls and without a lock.
-/

set_option autoImplicit false

namespace TriAI.Persistence

open TriAI.Library.FileTree
open TriAI.Library.Interaction
open TriAI.Library.TextLines
open TriAI.Storage

/-! ## Threads -/

/-- A thread that has not begun its append, or whose append has ended. -/
inductive AppendState (Value : Type) where
  | notBegun (value : Value)
  | ended (result : Except PersistenceError Unit)

/-- The disk, and how many writes of each append have succeeded. -/
structure AppendWorld (count : Nat) where
  disk : Disk
  writes : Fin count → Nat

/-- A write that succeeds is counted. -/
def countWrite {count : Nat} (writes : Fin count → Nat) (id : Fin count) :
    (op : StoreOp) → op.Reply → Fin count → Nat
  | .writeAll _ _, .ok () => Function.update writes id (writes id + 1)
  | _, _ => writes

abbrev AppendPool (count : Nat) (Value : Type) : Type :=
  Pool (Fin count) StoreOp StoreOp.Reply (AppendState Value) (AppendWorld count)

section Threads

variable {Value : Type} {count : Nat}

/-- Any number of appends to one session. -/
def appendSystem (json : JsonCodec Value) (tool : Sha256sum) (session : String) (root : Path) :
    System (Fin count) StoreOp StoreOp.Reply (AppendState Value) (AppendWorld count) where
  Offers := fun _ state program => ∃ value, state = .notBegun value ∧
    program = (append json session value root).run >>= fun result => .ret (.ended result)
  Step := fun id world op reply after => op.apply tool world.disk = (reply, after.disk) ∧
    after.writes = countWrite world.writes id op reply
  Environment := fun _ _ => False

/-- A write comes when no other append has made one of its two writes. -/
def Unbroken (id : Fin count) (world : AppendWorld count) : StoreOp → Prop
  | .writeAll _ _ => ∀ other, other ≠ id → world.writes other ≠ 1
  | _ => True

/-- The interleavings in which no write of one append comes between those of another. -/
def unbrokenSystem (json : JsonCodec Value) (tool : Sha256sum) (session : String) (root : Path) :
    System (Fin count) StoreOp StoreOp.Reply (AppendState Value) (AppendWorld count) :=
  { appendSystem json tool session root with
    Step := fun id world op reply after =>
      (appendSystem json tool session root).Step id world op reply after ∧ Unbroken id world op }

def startOfAppends (values : Fin count → Value) (disk : Disk) : AppendPool count Value where
  world := { disk, writes := fun _ => 0 }
  activity := fun id => .resting (.notBegun (values id))

/-- `load` returns the earlier values and after them each appended value once. -/
def AppendsKept (json : JsonCodec Value) (tool : Sha256sum) (session : String) (root : Path)
    (earlier : List Value) (values : Fin count → Value) (disk : Disk) : Prop :=
  ∃ added, added.Perm (List.ofFn values) ∧
    (Fallible.outcome (StoreOp.apply tool) (load json root session) disk).1 =
      .ok (earlier ++ added)

end Threads

/-! ## What an append has done -/

/-- The view of a thread: its value and how many writes it has made. -/
structure AppendView (Value : Type) where
  value : Value
  writes : Nat := 0

section Views

variable {Value : Type} (json : JsonCodec Value) (session : String) (root : Path)

/-- The text is written first and then the newline. -/
def AppendView.Writes (view : AppendView Value) (bytes : List UInt8) : Prop :=
  (view.writes = 0 ∧ ∃ text, json.toString view.value = .ok text ∧ bytes = utf8Bytes text) ∨
    (view.writes = 1 ∧ bytes = [10])

/-- What a thread may call, and what it learns. -/
def appendContract : Contract StoreOp StoreOp.Reply (AppendView Value) where
  Admits := fun view op => match op with
    | .createDirAll path => path = root
    | .openAppend path => path = sessionPath root session
    | .writeAll path bytes => path = sessionPath root session ∧ view.Writes json bytes
    | .flush _ => True
    | _ => False
  Answers := fun view op reply after => match op, reply with
    | .writeAll _ _, .ok () => after = { view with writes := view.writes + 1 }
    | _, _ => after = view

/-- An append that ends with success has made both writes. -/
def AppendRest : AppendState Value → AppendView Value → Prop
  | .notBegun value, view => view.value = value ∧ view.writes = 0
  | .ended (.ok ()), view => view.writes = 2
  | .ended (.error _), _ => True

variable {json session root}

/-- The two writes. -/
private theorem writes_rest {view : AppendView Value} (begun : view.writes = 0) {text : String}
    (serialized : json.toString view.value = .ok text) (textWrap newlineWrap flushWrap :
      IoError → PersistenceError) :
    wlp (appendContract json session root)
      (do
        Store.writeAll textWrap (sessionPath root session) (utf8Bytes text)
        Store.writeAll newlineWrap (sessionPath root session) [10]
        Store.flush flushWrap (sessionPath root session) : Store PersistenceError Unit).run
      (fun result after => AppendRest (.ended result) after) view := by
  rw [Fallible.wlp_run_bind]
  refine wlp_perform ⟨rfl, .inl ⟨begun, text, serialized, rfl⟩⟩ fun written after learned => ?_
  cases written with
  | error error => trivial
  | ok done =>
      obtain rfl := learned
      show wlp _ ((Store.writeAll _ (sessionPath root session) [10] >>= fun _ => _).run) _ _
      rw [Fallible.wlp_run_bind]
      refine wlp_perform ⟨rfl, .inr ⟨by simp [begun], rfl⟩⟩ fun ended after learned => ?_
      cases ended with
      | error error => trivial
      | ok done =>
          obtain rfl := learned
          refine wlp_perform trivial fun flushed after same => ?_
          obtain rfl := same
          cases flushed with
          | error error => trivial
          | ok done =>
              show view.writes + 1 + 1 = 2
              omega

/-- A whole append. -/
private theorem append_rest {view : AppendView Value} (begun : view.writes = 0) :
    wlp (appendContract json session root) (append json session view.value root).run
      (fun result after => AppendRest (.ended result) after) view := by
  unfold append checkId
  rw [Fallible.wlp_run_bind]
  split
  · show wlp _ ((Store.createDirAll _ root >>= fun _ => _).run) _ view
    rw [Fallible.wlp_run_bind]
    refine wlp_perform rfl fun made after same => ?_
    obtain rfl : view = after := same.symm
    cases made with
    | error error => trivial
    | ok done =>
        show wlp _ ((Store.openAppend _ (sessionPath root session) >>= fun _ => _).run) _ view
        rw [Fallible.wlp_run_bind]
        refine wlp_perform rfl fun opened after same => ?_
        obtain rfl : view = after := same.symm
        cases opened with
        | error error => trivial
        | ok done =>
            show wlp _ ((Store.ofExcept (serialize json view.value) >>= fun _ => _).run) _ view
            rw [Fallible.wlp_run_bind]
            cases serialized : json.toString view.value with
            | error error =>
                simp only [serialize, serialized, Except.mapError, Store.ofExcept]
                trivial
            | ok text =>
                simp only [serialize, serialized, Except.mapError, Store.ofExcept]
                exact writes_rest begun serialized _ _ _
  · trivial

end Views

/-! ## Invariant -/

section Invariant

variable {Value : Type} {json : JsonCodec Value} {tool : Sha256sum} {session : String}
  {root : Path} {count : Nat}

/-- The bytes that `append` writes first. -/
def textOf (json : JsonCodec Value) (value : Value) : List UInt8 :=
  match json.toString value with
  | .ok text => utf8Bytes text
  | .error _ => []

/-- The log: the lines of the appends that have made both writes, in the order of their
second ones, and then the text of the one append that has made only the first. -/
structure LogOf (json : JsonCodec Value) (path : Path) (before : Disk)
    (values : Fin count → Value) (disk : Disk) (writes : Fin count → Nat)
    (views : Fin count → AppendView Value) (order : List (Fin count))
    (halfway : Option (Fin count)) : Prop where
  value : ∀ id, (views id).value = values id
  counted : ∀ id, (views id).writes = writes id
  nodup : order.Nodup
  completed : ∀ id, id ∈ order ↔ writes id = 2
  serializable : ∀ id, writes id ≠ 0 → ∃ text, json.toString (values id) = .ok text
  half : ∀ id, halfway = some id ↔ writes id = 1
  log : Added before path
    (logBytes json (order.map values) ++ (halfway.map (textOf json ∘ values)).getD []) disk

/-- The invariant. -/
def LogConsistent (json : JsonCodec Value) (path : Path) (before : Disk)
    (values : Fin count → Value) (world : AppendWorld count)
    (views : Fin count → AppendView Value) : Prop :=
  ∃ order halfway, LogOf json path before values world.disk world.writes views order halfway

variable {path : Path} {before disk after : Disk} {values : Fin count → Value}
  {writes : Fin count → Nat}
  {views : Fin count → AppendView Value} {order : List (Fin count)} {halfway : Option (Fin count)}

/-- A step that adds nothing to the log. -/
private theorem LogOf.silent
    (invariant : LogOf json path before values disk writes views order halfway)
    (id : Fin count) (added : Added disk path [] after) :
    LogOf json path before values after writes (Function.update views id (views id)) order
      halfway := by
  rw [Function.update_eq_self]
  exact { invariant with
    log := by
      have whole := invariant.log.trans added
      rwa [List.append_nil] at whole }

/-- The counts after a write. -/
private theorem counted_update (counted : ∀ id, (views id).writes = writes id)
    (id : Fin count) (other : Fin count) :
    (Function.update views id { views id with writes := (views id).writes + 1 } other).writes =
      Function.update writes id (writes id + 1) other := by
  by_cases same : other = id
  · rw [same, Function.update_self, Function.update_self, counted id]
  · rw [Function.update_of_ne same, Function.update_of_ne same, counted other]

private theorem value_update (value : ∀ id, (views id).value = values id)
    (id : Fin count) (other : Fin count) :
    (Function.update views id { views id with writes := (views id).writes + 1 } other).value =
      values other := by
  by_cases same : other = id
  · rw [same, Function.update_self]
    exact value id
  · rw [Function.update_of_ne same]
    exact value other

/-- The first write of an append, while no other is halfway. -/
private theorem LogOf.first
    (invariant : LogOf json path before values disk writes views order halfway)
    {id : Fin count} (begun : writes id = 0)
    (alone : ∀ other, other ≠ id → writes other ≠ 1) {text : String}
    (serialized : json.toString (values id) = .ok text)
    (added : Added disk path (utf8Bytes text) after) :
    LogOf json path before values after
      (Function.update writes id (writes id + 1))
      (Function.update views id { views id with writes := (views id).writes + 1 }) order
      (some id) where
  value := value_update invariant.value id
  counted := counted_update invariant.counted id
  nodup := invariant.nodup
  completed := by
    intro other
    rw [invariant.completed other]
    by_cases same : other = id
    · rw [same, Function.update_self]
      omega
    · rw [Function.update_of_ne same]
  serializable := by
    intro other begun
    by_cases same : other = id
    · rw [same]
      exact ⟨text, serialized⟩
    · rw [Function.update_of_ne same] at begun
      exact invariant.serializable other begun
  half := by
    intro other
    by_cases same : other = id
    · rw [same, Function.update_self]
      simp [begun]
    · rw [Function.update_of_ne same]
      simp only [Option.some.injEq, alone other same, iff_false]
      exact Ne.symm same
  log := by
    have none : halfway = none := by
      cases isHalf : halfway with
      | none => rfl
      | some other =>
          have one := (invariant.half other).mp isHalf
          by_cases same : other = id
          · rw [same] at one
            omega
          · exact absurd one (alone other same)
    have soFar := invariant.log
    rw [none] at soFar
    simpa [textOf, serialized] using soFar.trans added

/-- The second write of an append. -/
private theorem LogOf.second
    (invariant : LogOf json path before values disk writes views order halfway)
    {id : Fin count} (isHalf : writes id = 1)
    (added : Added disk path [10] after) :
    LogOf json path before values after
      (Function.update writes id (writes id + 1))
      (Function.update views id { views id with writes := (views id).writes + 1 }) (order ++ [id])
      none where
  value := value_update invariant.value id
  counted := counted_update invariant.counted id
  nodup := by
    have fresh : id ∉ order := by
      rw [invariant.completed id]
      omega
    exact (List.perm_append_singleton id order).nodup_iff.mpr
      (List.nodup_cons.mpr ⟨fresh, invariant.nodup⟩)
  completed := by
    intro other
    rw [List.mem_append, invariant.completed other, List.mem_singleton]
    by_cases same : other = id
    · rw [same, Function.update_self]
      simp [isHalf]
    · rw [Function.update_of_ne same]
      simp [same]
  serializable := by
    intro other begun
    by_cases same : other = id
    · rw [same]
      exact invariant.serializable id (by omega)
    · rw [Function.update_of_ne same] at begun
      exact invariant.serializable other begun
  half := by
    intro other
    have isHalfway := (invariant.half id).mpr isHalf
    by_cases same : other = id
    · rw [same, Function.update_self]
      simp [isHalf]
    · rw [Function.update_of_ne same, ← invariant.half other, isHalfway]
      simp [Ne.symm same]
  log := by
    obtain ⟨text, serialized⟩ := invariant.serializable id (by omega)
    have soFar := invariant.log
    rw [(invariant.half id).mpr isHalf] at soFar
    have whole := soFar.trans added
    simpa [logBytes, lineOf_ok serialized, lineBytes, textOf, serialized] using whole

/-- Step lemma. -/
private theorem LogConsistent.answers {world next : AppendWorld count}
    (invariant : LogConsistent json (sessionPath root session) before values world views)
    {id : Fin count} {op : StoreOp} {reply : op.Reply}
    (admitted : (appendContract json session root).Admits (views id) op)
    (stepped : (unbrokenSystem json tool session root).Step id world op reply next) :
    ∃ view, (appendContract json session root).Answers (views id) op reply view ∧
      LogConsistent json (sessionPath root session) before values next
        (Function.update views id view) := by
  obtain ⟨order, halfway, log⟩ := invariant
  obtain ⟨disk, writes⟩ := next
  obtain ⟨⟨applied, counts⟩, unbroken⟩ := stepped
  have isDisk : disk = (op.apply tool world.disk).2 := (congrArg Prod.snd applied).symm
  have isReply : (op.apply tool world.disk).1 = reply := congrArg Prod.fst applied
  cases op with
  | createDirAll path =>
      obtain rfl : writes = world.writes := counts
      obtain rfl : path = root := admitted
      refine ⟨views id, rfl, order, halfway, log.silent id ?_⟩
      have notAbove := not_sessionPath_prefix path session
      rw [isDisk]
      exact .of_lookup (Disk.createDirAll_frame notAbove)
  | openAppend path =>
      obtain rfl : writes = world.writes := counts
      obtain rfl : path = sessionPath root session := admitted
      refine ⟨views id, rfl, order, halfway, log.silent id ?_⟩
      rw [isDisk]
      exact .openAppend world.disk _
  | flush path =>
      obtain rfl : writes = world.writes := counts
      refine ⟨views id, rfl, order, halfway, log.silent id ?_⟩
      rw [isDisk]
      exact .refl world.disk _
  | writeAll path bytes =>
      obtain ⟨rfl, expected⟩ := admitted
      rcases world.disk.writeAll_cases (sessionPath root session) bytes with
        ⟨error, failed⟩ | ⟨written, succeeded, file⟩
      · have isError : reply = .error error := isReply.symm.trans (congrArg Prod.fst failed)
        subst isError
        obtain rfl : writes = world.writes := counts
        refine ⟨views id, rfl, order, halfway, log.silent id ?_⟩
        rw [isDisk]
        show Added world.disk _ [] (world.disk.writeAll (sessionPath root session) bytes).2
        rw [failed]
        exact .refl world.disk _
      · have isOk : reply = .ok () := isReply.symm.trans (congrArg Prod.fst succeeded)
        subst isOk
        obtain rfl : writes = Function.update world.writes id (world.writes id + 1) := counts
        have added : Added world.disk (sessionPath root session) bytes disk := by
          rw [isDisk]
          show Added world.disk _ bytes (world.disk.writeAll (sessionPath root session) bytes).2
          rw [succeeded]
          exact .of_writesFile file
        refine ⟨_, rfl, ?_⟩
        unfold AppendView.Writes at expected
        rw [log.counted id, log.value id] at expected
        rcases expected with ⟨begun, text, serialized, rfl⟩ | ⟨isHalf, rfl⟩
        · exact ⟨order, some id, log.first begun unbroken serialized added⟩
        · exact ⟨order ++ [id], none, log.second isHalf added⟩
  | _ => exact admitted.elim

private theorem unbroken_respects :
    (unbrokenSystem json tool session root).Respects (appendContract json session root) AppendRest
      (LogConsistent json (sessionPath root session) before values) where
  offered := by
    intro id state program view rest offered
    obtain ⟨value, rfl, rfl⟩ := offered
    obtain ⟨rfl, begun⟩ := rest
    exact wlp_seq (append_rest begun) fun _ _ ended => ended
  step := fun _ _ _ _ _ _ invariant admitted stepped => invariant.answers admitted stepped
  environment := fun _ _ _ _ impossible => impossible.elim

private theorem startOfAppends_safe (values : Fin count → Value) (disk : Disk) :
    (startOfAppends values disk).Safe (appendContract json session root) AppendRest
      (LogConsistent json (sessionPath root session) disk values) := by
  refine ⟨fun id => { value := values id }, ⟨[], none, ?_⟩, fun _ => ⟨rfl, rfl⟩⟩
  exact {
    value := fun _ => rfl
    counted := fun _ => rfl
    nodup := List.nodup_nil
    completed := fun _ => by simp [startOfAppends]
    serializable := fun _ begun => absurd rfl begun
    half := fun _ => by simp [startOfAppends]
    log := .refl _ _ }

/-- When every append has made both writes, each of them is in the log once. -/
private theorem LogOf.complete
    (invariant : LogOf json path before values disk writes views order halfway)
    (complete : ∀ id, writes id = 2) :
    order.Perm (List.finRange count) ∧ Serializable json (order.map values) ∧
      Added before path (logBytes json (order.map values)) disk := by
  have noHalf : halfway = none := by
    cases isHalf : halfway with
    | none => rfl
    | some id =>
        have one := (invariant.half id).mp isHalf
        rw [complete id] at one
        omega
  refine ⟨?_, ?_, ?_⟩
  · refine (List.perm_ext_iff_of_nodup invariant.nodup (List.nodup_finRange count)).mpr fun id => ?_
    simp only [invariant.completed id, complete id, List.mem_finRange]
  · intro value member
    obtain ⟨id, _, rfl⟩ := List.mem_map.mp member
    exact invariant.serializable id (by rw [complete id]; omega)
  · have added := invariant.log
    rw [noHalf] at added
    simpa using added

/-- Loading a log that ended with a newline and to which lines were added. -/
theorem load_added (lawful : json.Lawful) {earlier added : List Value}
    (loaded : (Fallible.outcome (StoreOp.apply tool) (load json root session) before).1 =
      .ok earlier)
    (terminated : Terminated 10 (before.bytesAt (sessionPath root session)))
    (serializable : Serializable json added) (lines : ∀ value ∈ added, FitsLine json value)
    (file : (before.bytesAt (sessionPath root session) ++ logBytes json added).length ≤
      maxFileBytes.toNat)
    (grown : Added before (sessionPath root session) (logBytes json added) after) :
    (Fallible.outcome (StoreOp.apply tool) (load json root session) after).1 =
      .ok (earlier ++ added) := by
  obtain ⟨valid, notDirectory, earlierLines⟩ := load_eq_ok loaded
  have small : (after.bytesAt (sessionPath root session)).length ≤ maxFileBytes.toNat := by
    rw [grown.bytes]
    exact file
  have allFit : added.filter (FitsLine json) = added := by
    rw [List.filter_eq_self]
    intro value member
    simpa using lines value member
  rw [load_of_bytes valid (grown.notDirectory notDirectory) small, grown.bytes,
    splitInclusive_append terminated, loadLines_append, earlierLines]
  show loadLines json session _ earlier = _
  rw [loadLines_logBytes lawful session serializable, allFit]

/-- In every interleaving of appends to a session in which no write of one comes between the
two writes of another: if all end with success, loading returns the values from before, if
their log ended with a newline, and each appended value once, as long as the lines and the
file are within the limits. -/
theorem appends_kept (lawful : json.Lawful) {earlier : List Value}
    (loaded : (Fallible.outcome (StoreOp.apply tool) (load json root session) before).1 =
      .ok earlier)
    (terminated : Terminated 10 (before.bytesAt (sessionPath root session)))
    (lines : ∀ id, FitsLine json (values id))
    (file : (before.bytesAt (sessionPath root session) ++
      logBytes json (List.ofFn values)).length ≤ maxFileBytes.toNat)
    {pool : AppendPool count Value}
    (reachable : (unbrokenSystem json tool session root).Reachable
      (startOfAppends values before) pool)
    (ended : ∀ id, pool.activity id = .resting (.ended (.ok ()))) :
    AppendsKept json tool session root earlier values pool.world.disk := by
  obtain ⟨views, ⟨order, halfway, log⟩, meets⟩ :=
    reachable.safe unbroken_respects (startOfAppends_safe values before)
  have complete : ∀ id, pool.world.writes id = 2 := by
    intro id
    have rest := meets id
    rw [ended id] at rest
    exact (log.counted id).symm.trans rest
  obtain ⟨everyOne, serializable, grown⟩ := log.complete complete
  have once : (order.map values).Perm (List.ofFn values) := by
    rw [List.ofFn_eq_map]
    exact everyOne.map values
  have sameSize : (logBytes json (order.map values)).length =
      (logBytes json (List.ofFn values)).length := (once.flatMap_right _).length_eq
  refine ⟨order.map values, once, load_added lawful loaded terminated serializable ?_ ?_ grown⟩
  · intro value member
    obtain ⟨id, _, rfl⟩ := List.mem_map.mp member
    exact lines id
  · rw [List.length_append, sameSize, ← List.length_append]
    exact file

end Invariant

/-! ## Two runs -/

/-- The strings of one letter and of two. -/
def oneAndTwo (id : Fin 2) : Nat := id.val + 1

/-- A call that succeeds with `()`. -/
private theorem answers_ok {world : AppendWorld 2} {id : Fin 2} {op : StoreOp} {reply : op.Reply}
    (succeeds : (op.apply noSha256sum world.disk).1 = reply) :
    (appendSystem aStrings noSha256sum "s1" ["sessions"]).Step id world op reply
      ⟨(op.apply noSha256sum world.disk).2, countWrite world.writes id op reply⟩ :=
  ⟨Prod.ext succeeds rfl, rfl⟩

private theorem bothResting {pool : AppendPool 2 Nat} {state : AppendState Nat}
    (first : pool.activity 0 = .resting state) (second : pool.activity 1 = .resting state) :
    ∀ id, pool.activity id = .resting state :=
  Fin.forall_fin_two.mpr ⟨first, second⟩

/-- Both texts are written before both newlines: both appends end with success, and loading
returns neither value. -/
theorem appends_torn :
    ∃ pool : AppendPool 2 Nat, (appendSystem aStrings noSha256sum "s1" ["sessions"]).Reachable
        (startOfAppends oneAndTwo sessionsDisk) pool ∧
      (∀ id, pool.activity id = .resting (.ended (.ok ()))) ∧
      (Fallible.outcome (StoreOp.apply noSha256sum)
        (load aStrings ["sessions"] "s1") sessionsDisk).1 = .ok [] ∧
      (∀ id, FitsLine aStrings (oneAndTwo id)) ∧
      (sessionsDisk.bytesAt (sessionPath ["sessions"] "s1") ++
        logBytes aStrings (List.ofFn oneAndTwo)).length ≤ maxFileBytes.toNat ∧
      ¬ AppendsKept aStrings noSha256sum "s1" ["sessions"] [] oneAndTwo pool.world.disk := by
  have start : (appendSystem aStrings noSha256sum "s1" ["sessions"]).Reachable
    (startOfAppends oneAndTwo sessionsDisk) (startOfAppends oneAndTwo sessionsDisk) := .refl
  have begins := start.begin 0 _ rfl ⟨_, rfl, rfl⟩
  have prepared := begins.call 0 rfl (.ok ()) _ (answers_ok (by decide +kernel))
  have opened := prepared.call 0 rfl (.ok ()) _ (answers_ok (by decide +kernel))
  have follows := opened.begin 1 _ rfl ⟨_, rfl, rfl⟩
  have alsoPrepared := follows.call 1 rfl (.ok ()) _ (answers_ok (by decide +kernel))
  have alsoOpened := alsoPrepared.call 1 rfl (.ok ()) _ (answers_ok (by decide +kernel))
  have wrote := alsoOpened.call 0 rfl (.ok ()) _ (answers_ok (by decide +kernel))
  have alsoWrote := wrote.call 1 rfl (.ok ()) _ (answers_ok (by decide +kernel))
  have terminated := alsoWrote.call 0 rfl (.ok ()) _ (answers_ok (by decide +kernel))
  have alsoTerminated := terminated.call 1 rfl (.ok ()) _ (answers_ok (by decide +kernel))
  have flushed := alsoTerminated.call 0 rfl (.ok ()) _ (answers_ok rfl)
  have alsoFlushed := flushed.call 1 rfl (.ok ()) _ (answers_ok rfl)
  have ended := alsoFlushed.finish 0 rfl
  have bothEnded := ended.finish 1 rfl
  refine ⟨_, bothEnded, bothResting rfl rfl, by decide +kernel, by decide +kernel,
    by decide +kernel, ?_⟩
  intro kept
  obtain ⟨added, once, loaded⟩ := kept
  have nothing : (.ok [] : Except PersistenceError (List Nat)) = .ok ([] ++ added) := by
    rw [← loaded]
    decide +kernel
  have size := once.length_eq
  have empty : [] = added := Except.ok.inj nothing
  rw [← empty] at size
  exact absurd size (by decide)

private theorem answers_unbroken {world : AppendWorld 2} {id : Fin 2} {op : StoreOp}
    {reply : op.Reply} (succeeds : (op.apply noSha256sum world.disk).1 = reply)
    (unbroken : Unbroken id world op) :
    (unbrokenSystem aStrings noSha256sum "s1" ["sessions"]).Step id world op reply
      ⟨(op.apply noSha256sum world.disk).2, countWrite world.writes id op reply⟩ :=
  ⟨answers_ok succeeds, unbroken⟩

/-- Both files are open before the first line is written, and the second line follows. -/
theorem appends_kept_both :
    ∃ pool : AppendPool 2 Nat, (unbrokenSystem aStrings noSha256sum "s1" ["sessions"]).Reachable
        (startOfAppends oneAndTwo sessionsDisk) pool ∧
      (∀ id, pool.activity id = .resting (.ended (.ok ()))) ∧
      AppendsKept aStrings noSha256sum "s1" ["sessions"] [] oneAndTwo pool.world.disk := by
  have start : (unbrokenSystem aStrings noSha256sum "s1" ["sessions"]).Reachable
    (startOfAppends oneAndTwo sessionsDisk) (startOfAppends oneAndTwo sessionsDisk) := .refl
  have begins := start.begin 0 _ rfl ⟨_, rfl, rfl⟩
  have prepared := begins.call 0 rfl (.ok ()) _ (answers_unbroken (by decide +kernel) trivial)
  have opened := prepared.call 0 rfl (.ok ()) _ (answers_unbroken (by decide +kernel) trivial)
  have follows := opened.begin 1 _ rfl ⟨_, rfl, rfl⟩
  have alsoPrepared :=
    follows.call 1 rfl (.ok ()) _ (answers_unbroken (by decide +kernel) trivial)
  have alsoOpened :=
    alsoPrepared.call 1 rfl (.ok ()) _ (answers_unbroken (by decide +kernel) trivial)
  have wrote := alsoOpened.call 0 rfl (.ok ()) _
    (answers_unbroken (by decide +kernel) (by unfold Unbroken; decide +kernel))
  have terminated := wrote.call 0 rfl (.ok ()) _
    (answers_unbroken (by decide +kernel) (by unfold Unbroken; decide +kernel))
  have alsoWrote := terminated.call 1 rfl (.ok ()) _
    (answers_unbroken (by decide +kernel) (by unfold Unbroken; decide +kernel))
  have alsoTerminated := alsoWrote.call 1 rfl (.ok ()) _
    (answers_unbroken (by decide +kernel) (by unfold Unbroken; decide +kernel))
  have flushed := alsoTerminated.call 0 rfl (.ok ()) _ (answers_unbroken rfl trivial)
  have alsoFlushed := flushed.call 1 rfl (.ok ()) _ (answers_unbroken rfl trivial)
  have ended := alsoFlushed.finish 0 rfl
  have bothEnded := ended.finish 1 rfl
  refine ⟨_, bothEnded, bothResting rfl rfl, ?_⟩
  exact appends_kept aStrings_lawful (by decide +kernel) (.inl (by decide +kernel))
    (by decide +kernel) (by decide +kernel) bothEnded (bothResting rfl rfl)

end TriAI.Persistence
