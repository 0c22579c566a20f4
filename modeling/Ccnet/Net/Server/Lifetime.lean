import Ccnet.Foundation.Mailbox
import Ccnet.Net.Server.TcpServer

/-! # The lives of the server's connections

Between two calls for a connection there is one task about it, in the thread or in the
queue of the loop that has to do the next thing. -/

namespace Ccnet.Net

/-! ## Names -/

theorem snprintf_eq {size : Nat} {text : List Char} (fits : text.length < size) :
    snprintf size text = text :=
  List.take_of_length_le (Nat.le_sub_one_of_lt fits)

theorem length_toDigits_le {number digits : Nat} (positive : 0 < digits)
    (bound : number < 10 ^ digits) : (Nat.toDigits 10 number).length ≤ digits :=
  (Nat.length_toDigits_le_iff (by decide) positive).mpr bound

theorem InetAddress.length_toIpPort (address : InetAddress) : address.toIpPort.length ≤ 21 := by
  have part : ∀ byte : Fin 256, (Nat.toDigits 10 byte).length ≤ 3 := fun byte =>
    length_toDigits_le (by decide) (by have bound := byte.isLt; omega)
  have port : (Nat.toDigits 10 address.port).length ≤ 5 :=
    length_toDigits_le (by decide) (by have bound := address.port.isLt; omega)
  have first := part address.ip.1
  have second := part address.ip.2.1
  have third := part address.ip.2.2.1
  have fourth := part address.ip.2.2.2
  simp only [toIpPort, toIp, snprintf, List.length_append, List.length_cons, List.length_take]
  omega

theorem TcpServer.connName_injective {server : TcpServer} (short : server.ipPort.length ≤ 21)
    {left right : Nat} (leftFits : left < 2 ^ 31) (rightFits : right < 2 ^ 31)
    (same : server.connName left = server.connName right) : left = right := by
  have fits : ∀ connId < 2 ^ 31,
      ('-' :: server.ipPort ++ '#' :: Nat.toDigits 10 connId).length < 64 := by
    intro connId bound
    have digits : (Nat.toDigits 10 connId).length ≤ 10 :=
      length_toDigits_le (by decide) (by omega)
    simp only [List.length_append, List.length_cons]
    omega
  unfold connName at same
  rw [snprintf_eq (fits left leftFits), snprintf_eq (fits right rightFits)] at same
  have sameDigits := List.cons.inj (List.append_cancel_left (List.append_cancel_left same))
  rw [← Nat.ofDigitChars_toDigits (b := 10) (n := left) (by decide) (by decide), sameDigits.2,
    Nat.ofDigitChars_toDigits (by decide) (by decide)]

/-! ## Tasks -/

def ServerFunctor.conn : ServerFunctor → Nat
  | .connectEstablished conn | .removeConnectionInLoop conn | .connectDestroyed conn => conn

namespace ServerTask

def conn : ServerTask → Nat
  | .newConnection conn | .closeCallback conn | .removed conn => conn
  | .functor called => called.conn

/-- How many of the calls have been made when the task waits. -/
def stage : ServerTask → Nat
  | .newConnection _ | .functor (.connectEstablished _) => 0
  | .closeCallback _ | .functor (.removeConnectionInLoop _) => 2
  | .removed _ | .functor (.connectDestroyed _) => 3

/-- The loop that has to do it, for a connection in the given loop. -/
def home (loop : LoopId) : ServerTask → LoopId
  | .newConnection _ | .functor (.removeConnectionInLoop _) | .removed _ => baseLoop
  | .closeCallback _ | .functor (.connectEstablished _) | .functor (.connectDestroyed _) => loop

end ServerTask

/-- The calls for a connection, in their order. -/
def lifecycle (loop : LoopId) : List ConnectionEvent :=
  [⟨.connectEstablished, loop⟩, ⟨.closeCallback, loop⟩, ⟨.removeConnectionInLoop, baseLoop⟩,
    ⟨.connectDestroyed, loop⟩]

/-- The connection bound in the functor that is being run. -/
def ServerTask.bound : ServerTask → Option Nat
  | .functor called => some called.conn
  | .removed conn => some conn
  | .newConnection _ | .closeCallback _ => none

/-- The connections bound in functors of the loop. -/
def ServerLoop.bound (loop : ServerLoop) : List Nat :=
  (loop.task.bind ServerTask.bound).toList ++ loop.queue.outstanding.map ServerFunctor.conn

def ServerLoop.tasks (loop : ServerLoop) : List ServerTask :=
  loop.task.toList ++ loop.queue.outstanding.map .functor

namespace ServerSystem

variable {system next : ServerSystem} {conn : Nat} {connection : ServerConnection}
  {thread : LoopId} {working : Option Nat}

def tasks (system : ServerSystem) (thread : LoopId) : List ServerTask :=
  (system.loops thread).tasks

def stage (system : ServerSystem) (conn : Nat) : Nat := (system.events conn).length

/-- The state after so many calls. -/
def stateAt : Nat → StateE
  | 0 => .kConnecting
  | 1 => .kConnected
  | _ => .kDisconnected

theorem tasks_setLoop (system : ServerSystem) (loop : LoopId) (state : ServerLoop) :
    (system.setLoop loop state).tasks = Function.update system.tasks loop state.tasks :=
  Function.comp_update ServerLoop.tasks system.loops loop state

/-- What the server knows of its connections. -/
structure Registered (system : ServerSystem) : Prop where
  pool : system.threadPool.loops = [] ∨ system.threadPool.next < system.threadPool.loops.length
  ipPort : system.server.ipPort.length ≤ 21
  nextConnId : system.server.nextConnId = system.accepted.length + 1
  bounded : system.server.nextConnId < 2 ^ 31
  name : ∀ conn connection, system.accepted[conn]? = some connection →
    connection.name = system.server.connName (conn + 1)
  connections : ∀ name conn, system.server.connections name = some conn ↔
    ∃ connection ∈ system.accepted[conn]?, connection.name = name ∧ system.stage conn < 3

/-- What has been done for each connection. -/
structure Progress (system : ServerSystem) : Prop where
  events : ∀ conn connection, system.accepted[conn]? = some connection →
    system.events conn <+: lifecycle connection.loop
  states : ∀ conn connection, system.accepted[conn]? = some connection →
    system.states conn = stateAt (system.stage conn)
  fresh : ∀ conn, system.accepted.length ≤ conn → system.events conn = []

/-- What is still to be done for each connection, except for the one that a thread is
working on. -/
structure Scheduled (system : ServerSystem) (working : Option Nat) : Prop where
  single : SingleMail ServerTask.conn system.tasks
  expected : ∀ thread, ∀ task ∈ system.tasks thread,
    ∃ connection ∈ system.accepted[task.conn]?,
      system.stage task.conn = task.stage ∧ thread = task.home connection.loop
  waiting : ∀ conn connection, system.accepted[conn]? = some connection →
    system.stage conn = 3 → some conn ≠ working → ∃ thread, ∃ task ∈ system.tasks thread,
      task.conn = conn
  absent : ∀ conn ∈ working, ∀ thread, ∀ task ∈ system.tasks thread, task.conn ≠ conn

structure Invariant (system : ServerSystem) (working : Option Nat) : Prop where
  registered : system.Registered
  progress : system.Progress
  scheduled : system.Scheduled working

/-! ## Taking and giving tasks -/

theorem tasks_of_task {task : ServerTask} (isTask : (system.loops thread).task = some task) :
    system.tasks thread = task :: (system.setTask thread none).tasks thread := by
  simp [tasks, ServerLoop.tasks, setTask, setLoop, isTask]

theorem tasks_setTask (system : ServerSystem) (thread : LoopId) (task : Option ServerTask) :
    (system.setTask thread task).tasks = Function.update system.tasks thread
      (task.toList ++ (system.loops thread).queue.outstanding.map .functor) :=
  tasks_setLoop ..

/-- The thread has come to a task. -/
theorem Invariant.take {task : ServerTask} (invariant : system.Invariant none)
    (isTask : (system.loops thread).task = some task) :
    Invariant (system.setTask thread none) (some task.conn) := by
  rcases invariant with ⟨registered, progress, scheduled⟩
  have before := tasks_of_task isTask
  have after := system.tasks_setTask thread none
  rw [after, Function.update_self] at before
  refine ⟨{ registered with }, { progress with }, ?_⟩
  constructor
  case single =>
    rw [after]
    exact scheduled.single.take before
  case expected =>
    intro place other member
    rw [after] at member
    exact scheduled.expected place other (SingleMail.mem_of_take before member)
  case waiting =>
    intro conn connection isConnection removed other
    rcases scheduled.waiting conn connection isConnection removed (by simp) with
      ⟨place, found, member, isConn⟩
    refine ⟨place, found, ?_, isConn⟩
    rw [after]
    by_cases isHere : place = thread
    · subst isHere
      rw [before] at member
      rw [Function.update_self]
      rcases List.mem_cons.mp member with rfl | later
      · exact absurd (congrArg some isConn.symm) other
      · exact later
    · rw [Function.update_of_ne isHere]
      exact member
  case absent =>
    rintro _ ⟨⟩ place other member
    rw [after] at member
    exact scheduled.single.absent_of_take before member

/-- The next task about the connection is put somewhere. -/
theorem Invariant.put {task : ServerTask} {mailbox : ServerLoop}
    (invariant : system.Invariant (some task.conn))
    (isConnection : system.accepted[task.conn]? = some connection)
    (stage : system.stage task.conn = task.stage) (home : thread = task.home connection.loop)
    (perm : mailbox.tasks.Perm (task :: system.tasks thread)) :
    Invariant (system.setLoop thread mailbox) none := by
  rcases invariant with ⟨registered, progress, scheduled⟩
  have after := system.tasks_setLoop thread mailbox
  refine ⟨{ registered with }, { progress with }, ?_⟩
  constructor
  case single =>
    rw [after]
    exact scheduled.single.put (scheduled.absent _ rfl) perm
  case expected =>
    intro place other member
    rw [after] at member
    rcases SingleMail.mem_of_put perm member with ⟨rfl, rfl⟩ | old
    · exact ⟨connection, isConnection, stage, home⟩
    · exact scheduled.expected place other old
  case waiting =>
    intro conn found isFound removed _
    rw [after]
    by_cases isConn : task.conn = conn
    · refine ⟨thread, task, ?_, isConn⟩
      rw [Function.update_self, perm.mem_iff]
      exact List.mem_cons_self
    · rcases scheduled.waiting conn found isFound removed
        (fun same => isConn (Option.some.inj same).symm) with ⟨place, other, member, isOther⟩
      refine ⟨place, other, ?_, isOther⟩
      by_cases isHere : place = thread
      · subst isHere
        rw [Function.update_self, perm.mem_iff]
        exact List.mem_cons_of_mem _ member
      · rw [Function.update_of_ne isHere]
        exact member
  case absent =>
    intro _ none
    cases none

theorem Invariant.enter {task : ServerTask} (invariant : system.Invariant (some task.conn))
    (isConnection : system.accepted[task.conn]? = some connection)
    (stage : system.stage task.conn = task.stage) (home : thread = task.home connection.loop)
    (free : (system.loops thread).task = none) :
    Invariant (system.setTask thread (some task)) none := by
  refine invariant.put isConnection stage home ?_
  simp [ServerLoop.tasks, tasks, free]

theorem Invariant.queue {functor : ServerFunctor}
    (invariant : system.Invariant (some functor.conn))
    (isConnection : system.accepted[functor.conn]? = some connection)
    (stage : system.stage functor.conn = ServerTask.stage (.functor functor))
    (home : thread = ServerTask.home connection.loop (.functor functor)) :
    Invariant (system.queueInLoop thread functor) none := by
  refine @Invariant.put _ _ _ (.functor functor) _ invariant isConnection stage home ?_
  simp only [ServerLoop.tasks, tasks, FunctorQueue.outstanding_push, List.map_append,
    List.map_singleton, ← List.append_assoc]
  exact List.perm_append_singleton _ _

/-- Nothing is left to do for the connection now. -/
theorem Invariant.leave (invariant : system.Invariant (some conn))
    (rests : system.stage conn ≠ 3) : system.Invariant none := by
  rcases invariant with ⟨registered, progress, scheduled⟩
  refine ⟨registered, progress, { scheduled with waiting := ?_, absent := by simp }⟩
  intro found connection isConnection removed _
  refine scheduled.waiting found connection isConnection removed ?_
  rintro ⟨⟩
  exact rests removed

/-! ## Calls -/

/-- A call for a connection is made, and nothing is done to other connections. -/
structure Records (system next : ServerSystem) (conn : Nat) (event : ConnectionEvent) : Prop where
  ipPort : next.server.ipPort = system.server.ipPort
  name : next.server.name = system.server.name
  nextConnId : next.server.nextConnId = system.server.nextConnId
  threadPool : next.threadPool = system.threadPool
  accepted : next.accepted = system.accepted
  loops : next.loops = system.loops
  events : next.events = Function.update system.events conn (system.events conn ++ [event])
  states : ∀ other ≠ conn, next.states other = system.states other

variable {event : ConnectionEvent}

theorem Records.stage_self (records : Records system next conn event) :
    next.stage conn = system.stage conn + 1 := by
  simp [stage, records.events]

theorem Records.stage_other (records : Records system next conn event) {other : Nat}
    (isOther : other ≠ conn) : next.stage other = system.stage other := by
  simp [stage, records.events, Function.update_of_ne isOther]

theorem Records.tasks (records : Records system next conn event) : next.tasks = system.tasks := by
  unfold ServerSystem.tasks
  rw [records.loops]

theorem concat_prefix {Item : Type} {items total : List Item} {item : Item}
    (isPrefix : items <+: total) (isNext : total[items.length]? = some item) :
    items ++ [item] <+: total := by
  rcases isPrefix with ⟨rest, rfl⟩
  rw [List.getElem?_append_right (Nat.le_refl _), Nat.sub_self] at isNext
  cases rest with
  | nil => cases isNext
  | cons head rest =>
      cases isNext
      exact ⟨rest, by simp⟩

theorem Progress.record (progress : system.Progress) (records : Records system next conn event)
    (isConnection : system.accepted[conn]? = some connection)
    (isNext : (lifecycle connection.loop)[system.stage conn]? = some event)
    (state : next.states conn = stateAt (system.stage conn + 1)) : next.Progress where
  events other found isFound := by
    rw [records.accepted] at isFound
    have before := progress.events other found isFound
    by_cases isConn : other = conn
    · subst isConn
      cases isConnection.symm.trans isFound
      rw [records.events, Function.update_self]
      exact concat_prefix before isNext
    · rw [records.events, Function.update_of_ne isConn]
      exact before
  states other found isFound := by
    rw [records.accepted] at isFound
    by_cases isConn : other = conn
    · subst isConn
      rw [records.stage_self, state]
    · rw [records.stage_other isConn, records.states other isConn]
      exact progress.states other found isFound
  fresh other outside := by
    rw [records.accepted] at outside
    have isConn : other ≠ conn := by
      rintro rfl
      rw [List.getElem?_eq_none outside] at isConnection
      cases isConnection
    rw [records.events, Function.update_of_ne isConn]
    exact progress.fresh other outside

theorem Scheduled.record (scheduled : system.Scheduled (some conn))
    (records : Records system next conn event) : next.Scheduled (some conn) where
  single := by
    rw [records.tasks]
    exact scheduled.single
  expected place task member := by
    rw [records.tasks] at member
    rw [records.accepted, records.stage_other (scheduled.absent conn rfl place task member)]
    exact scheduled.expected place task member
  waiting other found isFound removed isOther := by
    rw [records.accepted] at isFound
    have isConn : other ≠ conn := fun same => isOther (congrArg some same)
    rw [records.stage_other isConn] at removed
    rw [records.tasks]
    exact scheduled.waiting other found isFound removed isOther
  absent := by
    rw [records.tasks]
    exact scheduled.absent

theorem Registered.record (registered : system.Registered)
    (records : Records system next conn event)
    (connections : ∀ name found, next.server.connections name = some found ↔
      ∃ connection ∈ next.accepted[found]?, connection.name = name ∧ next.stage found < 3) :
    next.Registered where
  pool := by
    rw [records.threadPool]
    exact registered.pool
  ipPort := by
    rw [records.ipPort]
    exact registered.ipPort
  nextConnId := by
    rw [records.nextConnId, records.accepted]
    exact registered.nextConnId
  bounded := by
    rw [records.nextConnId]
    exact registered.bounded
  name found connection isConnection := by
    rw [records.accepted] at isConnection
    rw [registered.name found connection isConnection]
    simp only [TcpServer.connName, records.ipPort, records.name]
  connections := connections

/-- A call that leaves `connections_` alone. -/
theorem Invariant.record (invariant : system.Invariant (some conn))
    (records : Records system next conn event)
    (isConnection : system.accepted[conn]? = some connection)
    (isNext : (lifecycle connection.loop)[system.stage conn]? = some event)
    (state : next.states conn = stateAt (system.stage conn + 1))
    (connections : next.server.connections = system.server.connections)
    (notRemoved : system.stage conn ≠ 2) : next.Invariant (some conn) := by
  refine ⟨invariant.registered.record records ?_,
    invariant.progress.record records isConnection isNext state,
    invariant.scheduled.record records⟩
  intro name found
  have stage : next.stage found < 3 ↔ system.stage found < 3 := by
    by_cases isConn : found = conn
    · subst isConn
      rw [records.stage_self]
      omega
    · rw [records.stage_other isConn]
  rw [connections, records.accepted, stage]
  exact invariant.registered.connections name found

theorem Registered.name_inj (registered : system.Registered) {left right : Nat}
    {first second : ServerConnection} (isFirst : system.accepted[left]? = some first)
    (isSecond : system.accepted[right]? = some second) (same : first.name = second.name) :
    left = right := by
  rw [registered.name left first isFirst, registered.name right second isSecond] at same
  have leftBound := (List.getElem?_eq_some_iff.mp isFirst).1
  have rightBound := (List.getElem?_eq_some_iff.mp isSecond).1
  have numbered := registered.nextConnId
  have bounded := registered.bounded
  have equal := TcpServer.connName_injective registered.ipPort (by omega) (by omega) same
  omega

/-- The call that takes the connection out of `connections_`. -/
theorem Invariant.erase (invariant : system.Invariant (some conn))
    (records : Records system next conn event)
    (isConnection : system.accepted[conn]? = some connection)
    (isNext : (lifecycle connection.loop)[system.stage conn]? = some event)
    (state : next.states conn = stateAt (system.stage conn + 1))
    (connections : next.server.connections =
      Function.update system.server.connections connection.name none)
    (removed : system.stage conn = 2) : next.Invariant (some conn) := by
  refine ⟨invariant.registered.record records ?_,
    invariant.progress.record records isConnection isNext state,
    invariant.scheduled.record records⟩
  intro name found
  rw [connections, records.accepted]
  by_cases isName : name = connection.name
  · subst isName
    rw [Function.update_self]
    refine ⟨fun none => (by cases none), ?_⟩
    rintro ⟨other, isOther, sameName, stage⟩
    have isConn := invariant.registered.name_inj isOther isConnection sameName
    subst isConn
    rw [records.stage_self] at stage
    omega
  · rw [Function.update_of_ne isName]
    refine (invariant.registered.connections name found).trans ?_
    have isConn : ∀ other, system.accepted[found]? = some other → other.name = name →
        found ≠ conn := by
      rintro other isOther rfl rfl
      cases isOther.symm.trans isConnection
      exact isName rfl
    constructor
    · rintro ⟨other, isOther, hasName, stage⟩
      exact ⟨other, isOther, hasName,
        by rw [records.stage_other (isConn other isOther hasName)]; exact stage⟩
    · rintro ⟨other, isOther, hasName, stage⟩
      rw [records.stage_other (isConn other isOther hasName)] at stage
      exact ⟨other, isOther, hasName, stage⟩

/-! ## Steps -/

theorem connection_eq (isConnection : system.accepted[conn]? = some connection) :
    system.connection conn = .ok connection := by
  rw [ServerSystem.connection, isConnection]
  rfl

theorem assertInLoopThread_self (thread : LoopId) : assertInLoopThread thread thread = .ok () :=
  if_pos rfl

theorem setTask_setTask (system : ServerSystem) (thread : LoopId) (first : Option ServerTask)
    (task : Option ServerTask) :
    (system.setTask thread first).setTask thread task = system.setTask thread task := by
  simp [setTask, setLoop]

theorem task_mem {task : ServerTask} (isTask : (system.loops thread).task = some task) :
    task ∈ system.tasks thread := by
  rw [tasks_of_task isTask]
  exact List.mem_cons_self

/-- The thread passes its task on, to another loop or to itself. -/
theorem Invariant.runInLoop {task : ServerTask} {functor : ServerFunctor} {loop : LoopId}
    (invariant : system.Invariant none) (isTask : (system.loops thread).task = some task)
    (conn : functor.conn = task.conn) (stage : ServerTask.stage (.functor functor) = task.stage)
    (home : ∀ connection, system.accepted[task.conn]? = some connection →
      loop = ServerTask.home connection.loop (.functor functor)) :
    Invariant (system.runInLoop thread loop functor) none := by
  rcases invariant.scheduled.expected thread task (task_mem isTask) with
    ⟨connection, isConnection, stageBefore, _⟩
  have taken := invariant.take isTask
  rw [← conn] at taken
  have isConnection : system.accepted[functor.conn]? = some connection := by
    rw [conn]
    exact isConnection
  have stageNow : system.stage functor.conn = ServerTask.stage (.functor functor) := by
    rw [conn, stage]
    exact stageBefore
  have homeNow := home connection (by rw [← conn]; exact isConnection)
  unfold ServerSystem.runInLoop
  split
  · rename_i same
    have entered := @Invariant.enter _ _ thread (.functor functor) taken isConnection stageNow
      (same.trans homeNow) (by simp [setTask, setLoop])
    rw [setTask_setTask] at entered
    exact entered
  · exact taken.queue isConnection stageNow homeNow

/-- What a thread finds when it comes to its task. -/
theorem Invariant.expects {task : ServerTask} (invariant : system.Invariant none)
    (isTask : (system.loops thread).task = some task) :
    ∃ connection, system.accepted[task.conn]? = some connection ∧
      system.stage task.conn = task.stage ∧ system.states task.conn = stateAt task.stage ∧
      thread = task.home connection.loop := by
  rcases invariant.scheduled.expected thread task (task_mem isTask) with
    ⟨connection, isConnection, stage, home⟩
  refine ⟨connection, isConnection, stage, ?_, home⟩
  rw [← stage]
  exact invariant.progress.states task.conn connection isConnection

theorem Invariant.connectEstablished (invariant : system.Invariant none)
    (isTask : (system.loops thread).task = some (.functor (.connectEstablished conn))) :
    ∃ next, system.connectEstablished thread conn = .ok next ∧ next.Invariant none := by
  have taken := invariant.take isTask
  rcases invariant.expects isTask with ⟨connection, isConnection, stage, state, home⟩
  simp only [ServerTask.conn, ServerFunctor.conn, ServerTask.stage, ServerTask.home,
    stateAt] at taken isConnection stage state home
  subst home
  unfold ServerSystem.connectEstablished
  rw [connection_eq isConnection, Checked.ok_bind, assertInLoopThread_self, Checked.ok_bind,
    Checked.check_bind_of state]
  refine ⟨_, rfl, ?_⟩
  have stage : (system.setTask connection.loop none).stage conn = 0 := stage
  have records : Records (system.setTask connection.loop none)
      (((system.setState conn .kConnected).record conn .connectEstablished
        connection.loop).setTask connection.loop none) conn
      ⟨.connectEstablished, connection.loop⟩ :=
    ⟨rfl, rfl, rfl, rfl, rfl, rfl, rfl, fun other isOther => Function.update_of_ne isOther _ _⟩
  refine (taken.record records isConnection ?_ ?_ rfl ?_).leave ?_
  · rw [stage]
    rfl
  · rw [stage]
    exact Function.update_self ..
  · simp [stage]
  · simp [records.stage_self, stage]

theorem Invariant.connectDestroyed (invariant : system.Invariant none)
    (isTask : (system.loops thread).task = some (.functor (.connectDestroyed conn))) :
    ∃ next, system.connectDestroyed thread conn = .ok next ∧ next.Invariant none := by
  have taken := invariant.take isTask
  rcases invariant.expects isTask with ⟨connection, isConnection, stage, state, home⟩
  simp only [ServerTask.conn, ServerFunctor.conn, ServerTask.stage, ServerTask.home,
    stateAt] at taken isConnection stage state home
  subst home
  unfold ServerSystem.connectDestroyed
  rw [connection_eq isConnection, Checked.ok_bind, assertInLoopThread_self, Checked.ok_bind,
    if_neg (by simp [state])]
  refine ⟨_, rfl, ?_⟩
  have stage : (system.setTask connection.loop none).stage conn = 3 := stage
  have records : Records (system.setTask connection.loop none)
      ((system.record conn .connectDestroyed connection.loop).setTask connection.loop none) conn
      ⟨.connectDestroyed, connection.loop⟩ :=
    ⟨rfl, rfl, rfl, rfl, rfl, rfl, rfl, fun _ _ => rfl⟩
  refine (taken.record records isConnection ?_ ?_ rfl ?_).leave ?_
  · rw [stage]
    rfl
  · rw [stage]
    exact state
  · simp [stage]
  · simp [records.stage_self, stage]

theorem Invariant.removeConnectionInLoop (invariant : system.Invariant none)
    (isTask : (system.loops thread).task = some (.functor (.removeConnectionInLoop conn))) :
    ∃ next, system.removeConnectionInLoop thread conn = .ok next ∧ next.Invariant none := by
  have taken := invariant.take isTask
  rcases invariant.expects isTask with ⟨connection, isConnection, stage, state, home⟩
  simp only [ServerTask.conn, ServerFunctor.conn, ServerTask.stage, ServerTask.home,
    stateAt] at taken isConnection stage state home
  subst home
  have present : system.server.connections connection.name = some conn :=
    (invariant.registered.connections connection.name conn).mpr
      ⟨connection, isConnection, rfl, by omega⟩
  unfold ServerSystem.removeConnectionInLoop
  rw [assertInLoopThread_self, Checked.ok_bind, connection_eq isConnection, Checked.ok_bind]
  dsimp only
  rw [Checked.check_bind_of (by simp [present])]
  refine ⟨_, rfl, ?_⟩
  generalize isServer : { system.server with
    connections := Function.update system.server.connections connection.name none } = server
  have stage : (system.setTask baseLoop none).stage conn = 2 := stage
  have records : Records (system.setTask baseLoop none)
      (({ system with server }.record conn .removeConnectionInLoop baseLoop).setTask baseLoop
        none) conn ⟨.removeConnectionInLoop, baseLoop⟩ := by
    subst isServer
    exact ⟨rfl, rfl, rfl, rfl, rfl, rfl, rfl, fun _ _ => rfl⟩
  have erased := taken.erase records isConnection (by rw [stage]; rfl) (by rw [stage]; exact state)
    (by subst isServer; rfl) stage
  have entered := @Invariant.enter _ connection baseLoop (.removed conn) erased isConnection
    (by rw [ServerTask.conn, records.stage_self, stage]; rfl) rfl (by simp [setTask, setLoop])
  rw [setTask_setTask] at entered
  exact entered

theorem Invariant.resume (invariant : system.Invariant none)
    (busy : (system.loops thread).task ≠ none) :
    ∃ next, system.resume thread = .ok next ∧ next.Invariant none := by
  rcases Option.ne_none_iff_exists'.mp busy with ⟨task, isTask⟩
  rcases invariant.expects isTask with ⟨connection, isConnection, stage, _, home⟩
  unfold ServerSystem.resume
  rw [isTask]
  cases task with
  | newConnection conn =>
      have isConnection : system.accepted[conn]? = some connection := isConnection
      simp only [connection_eq isConnection, Checked.ok_bind]
      refine ⟨_, rfl, invariant.runInLoop isTask rfl rfl ?_⟩
      intro found isFound
      cases isConnection.symm.trans isFound
      rfl
  | functor functor =>
      cases functor with
      | connectEstablished conn => exact invariant.connectEstablished isTask
      | removeConnectionInLoop conn => exact invariant.removeConnectionInLoop isTask
      | connectDestroyed conn => exact invariant.connectDestroyed isTask
  | closeCallback conn =>
      exact ⟨_, rfl, invariant.runInLoop isTask rfl rfl (fun _ _ => rfl)⟩
  | removed conn =>
      have isConnection : system.accepted[conn]? = some connection := isConnection
      simp only [connection_eq isConnection, Checked.ok_bind]
      exact ⟨_, rfl, (invariant.take isTask).queue isConnection stage rfl⟩

/-- Nobody has anything to do for a connection that is established and not closed. -/
theorem Invariant.begin (invariant : system.Invariant none) (stage : system.stage conn = 1) :
    system.Invariant (some conn) := by
  rcases invariant with ⟨registered, progress, scheduled⟩
  refine ⟨registered, progress, { scheduled with waiting := ?_, absent := ?_ }⟩
  · intro found connection isConnection removed _
    exact scheduled.waiting found connection isConnection removed (by simp)
  · rintro _ ⟨⟩ place task member rfl
    rcases scheduled.expected place task member with ⟨_, _, expected, _⟩
    rw [stage] at expected
    cases task with
    | functor functor => cases functor <;> cases expected
    | newConnection _ | closeCallback _ | removed _ => cases expected

theorem Progress.stage_eq_one (progress : system.Progress)
    (isConnection : system.accepted[conn]? = some connection)
    (established : .connectEstablished ∈ system.calls conn)
    (notClosed : .closeCallback ∉ system.calls conn) : system.stage conn = 1 := by
  have isPrefix := List.prefix_iff_eq_take.mp (progress.events conn connection isConnection)
  have bound := (progress.events conn connection isConnection).length_le
  unfold calls at established notClosed
  rw [isPrefix] at established notClosed
  change (system.events conn).length = 1
  generalize (system.events conn).length = stage at *
  rcases stage with _ | _ | stage
  · cases established
  · rfl
  · simp [lifecycle] at notClosed

theorem Invariant.close (invariant : system.Invariant none)
    (allowed : system.Allowed (.close conn)) :
    ∃ next, system.step (.close conn) = .ok next ∧ next.Invariant none := by
  rcases allowed with ⟨connection, isConnection, free, established, notClosed⟩
  have isConnection : system.accepted[conn]? = some connection := isConnection
  have stage := invariant.progress.stage_eq_one isConnection established notClosed
  have state := invariant.progress.states conn connection isConnection
  rw [stage] at state
  simp only [stateAt] at state
  simp only [step, handleClose, connection_eq isConnection, Checked.ok_bind,
    assertInLoopThread_self]
  rw [Checked.check_bind_of (.inl state)]
  refine ⟨_, rfl, ?_⟩
  have records : Records system ((system.setState conn .kDisconnected).record conn .closeCallback
      connection.loop) conn ⟨.closeCallback, connection.loop⟩ :=
    ⟨rfl, rfl, rfl, rfl, rfl, rfl, rfl, fun other isOther => Function.update_of_ne isOther _ _⟩
  have closed := (invariant.begin stage).record records isConnection (by rw [stage]; rfl)
    (by rw [stage]; exact Function.update_self ..) rfl (by simp [stage])
  exact @Invariant.enter _ connection connection.loop (.closeCallback conn) closed isConnection
    (by rw [ServerTask.conn, records.stage_self, stage]; rfl) rfl free

theorem getElem?_concat_iff {Item : Type} {items : List Item} {last item : Item} {index : Nat} :
    (items ++ [last])[index]? = some item ↔
      items[index]? = some item ∨ (index = items.length ∧ item = last) := by
  rcases Nat.lt_trichotomy index items.length with before | rfl | after
  · rw [List.getElem?_append_left before]
    simp [Nat.ne_of_lt before]
  · simp [eq_comm]
  · have outside : (items ++ [last]).length ≤ index := by
      rw [List.length_append]
      exact after
    rw [List.getElem?_eq_none outside, List.getElem?_eq_none (Nat.le_of_lt after)]
    simp [Nat.ne_of_gt after]

theorem Registered.getNextLoop (registered : system.Registered) :
    ∃ loop threadPool, system.threadPool.getNextLoop = .ok (loop, threadPool) ∧
      (threadPool.loops = [] ∨ threadPool.next < threadPool.loops.length) := by
  unfold EventLoopThreadPool.getNextLoop
  rcases registered.pool with empty | inside
  · rw [if_pos (by simp [empty])]
    exact ⟨_, _, rfl, .inl empty⟩
  · rw [if_neg (by rw [List.isEmpty_iff]; rintro empty; simp [empty] at inside),
      List.getElem?_eq_getElem inside]
    refine ⟨_, _, rfl, .inr ?_⟩
    dsimp only
    split <;> omega

/-- A connection is made, and nothing is done to the others. -/
structure Creates (system next : ServerSystem) (loop : LoopId) : Prop where
  ipPort : next.server.ipPort = system.server.ipPort
  name : next.server.name = system.server.name
  nextConnId : next.server.nextConnId = system.server.nextConnId + 1
  connections : next.server.connections = Function.update system.server.connections
    (system.server.connName system.server.nextConnId) (some system.accepted.length)
  accepted : next.accepted = system.accepted ++
    [{ name := system.server.connName system.server.nextConnId, loop }]
  loops : next.loops = system.loops
  events : next.events = system.events
  states : next.states = Function.update system.states system.accepted.length .kConnecting

variable {loop : LoopId}

theorem Creates.stage (creates : Creates system next loop) (conn : Nat) :
    next.stage conn = system.stage conn := by
  rw [ServerSystem.stage, creates.events]
  rfl

theorem Creates.tasks (creates : Creates system next loop) : next.tasks = system.tasks := by
  unfold ServerSystem.tasks
  rw [creates.loops]

theorem Creates.connection_iff (creates : Creates system next loop) :
    next.accepted[conn]? = some connection ↔
      system.accepted[conn]? = some connection ∨ (conn = system.accepted.length ∧
        connection = { name := system.server.connName system.server.nextConnId, loop }) := by
  rw [creates.accepted]
  exact getElem?_concat_iff

theorem Progress.stage_new (progress : system.Progress) :
    system.stage system.accepted.length = 0 := by
  rw [ServerSystem.stage, progress.fresh _ (Nat.le_refl _)]
  rfl

theorem Registered.create (registered : system.Registered) (creates : Creates system next loop)
    (isNew : system.stage system.accepted.length = 0)
    (pool : next.threadPool.loops = [] ∨ next.threadPool.next < next.threadPool.loops.length)
    (bound : system.server.nextConnId + 1 < 2 ^ 31) : next.Registered where
  pool := pool
  ipPort := by
    rw [creates.ipPort]
    exact registered.ipPort
  nextConnId := by
    rw [creates.nextConnId, creates.accepted, registered.nextConnId, List.length_append]
    rfl
  bounded := by
    rw [creates.nextConnId]
    exact bound
  name conn connection isConnection := by
    have sameName : next.server.connName (conn + 1) = system.server.connName (conn + 1) := by
      simp [TcpServer.connName, creates.ipPort, creates.name]
    rw [sameName]
    rcases creates.connection_iff.mp isConnection with old | ⟨rfl, rfl⟩
    · exact registered.name conn connection old
    · rw [registered.nextConnId]
  connections name conn := by
    simp only [Option.mem_def, creates.connection_iff, creates.stage, creates.connections]
    by_cases isName : name = system.server.connName system.server.nextConnId
    · subst isName
      rw [Function.update_self]
      constructor
      · rintro ⟨⟩
        exact ⟨_, .inr ⟨rfl, rfl⟩, rfl, by omega⟩
      · rintro ⟨connection, old | ⟨rfl, rfl⟩, hasName, _⟩
        · rw [registered.name conn connection old] at hasName
          have inside := (List.getElem?_eq_some_iff.mp old).1
          have numbered := registered.nextConnId
          have bounded := registered.bounded
          have same := TcpServer.connName_injective registered.ipPort (by omega) bounded hasName
          omega
        · rfl
    · rw [Function.update_of_ne isName, registered.connections name conn]
      constructor
      · rintro ⟨connection, old, hasName, before⟩
        exact ⟨connection, .inl old, hasName, before⟩
      · rintro ⟨connection, old | ⟨rfl, rfl⟩, hasName, before⟩
        · exact ⟨connection, old, hasName, before⟩
        · exact absurd hasName.symm isName

theorem Progress.create (progress : system.Progress) (creates : Creates system next loop) :
    next.Progress where
  events conn connection isConnection := by
    rw [creates.events]
    rcases creates.connection_iff.mp isConnection with old | ⟨rfl, rfl⟩
    · exact progress.events conn connection old
    · rw [progress.fresh _ (Nat.le_refl _)]
      exact List.nil_prefix
  states conn connection isConnection := by
    rw [creates.states, creates.stage]
    rcases creates.connection_iff.mp isConnection with old | ⟨rfl, rfl⟩
    · have inside := (List.getElem?_eq_some_iff.mp old).1
      rw [Function.update_of_ne (Nat.ne_of_lt inside)]
      exact progress.states conn connection old
    · rw [Function.update_self, progress.stage_new]
      rfl
  fresh conn outside := by
    rw [creates.accepted, List.length_append] at outside
    rw [creates.events]
    exact progress.fresh conn (by omega)

theorem Scheduled.create (scheduled : system.Scheduled none)
    (creates : Creates system next loop) : next.Scheduled (some system.accepted.length) where
  single := by
    rw [creates.tasks]
    exact scheduled.single
  expected place task member := by
    rw [creates.tasks] at member
    rcases scheduled.expected place task member with ⟨connection, old, stage, home⟩
    exact ⟨connection, creates.connection_iff.mpr (.inl old), (creates.stage _).trans stage, home⟩
  waiting conn connection isConnection removed isOther := by
    rw [creates.stage] at removed
    rw [creates.tasks]
    rcases creates.connection_iff.mp isConnection with old | ⟨isNew, _⟩
    · exact scheduled.waiting conn connection old removed (by simp)
    · exact absurd (congrArg some isNew) isOther
  absent := by
    rintro _ ⟨⟩ place task member isConn
    rw [creates.tasks] at member
    rcases scheduled.expected place task member with ⟨connection, old, _, _⟩
    have inside := (List.getElem?_eq_some_iff.mp old).1
    omega

/-- The connection is made, and the thread has still to do something for it. -/
theorem Invariant.create (invariant : system.Invariant none)
    (creates : Creates system next loop)
    (pool : next.threadPool.loops = [] ∨ next.threadPool.next < next.threadPool.loops.length)
    (bound : system.server.nextConnId + 1 < 2 ^ 31) :
    next.Invariant (some system.accepted.length) where
  registered := invariant.registered.create creates invariant.progress.stage_new pool bound
  progress := invariant.progress.create creates
  scheduled := invariant.scheduled.create creates

theorem Invariant.accept (invariant : system.Invariant none)
    (free : (system.loops baseLoop).task = none)
    (bound : system.server.nextConnId + 1 < 2 ^ 31) :
    ∃ next, system.newConnection = .ok next ∧ next.Invariant none := by
  rcases invariant.registered.getNextLoop with ⟨loop, threadPool, chosen, pool⟩
  unfold newConnection
  rw [chosen, Checked.ok_bind]
  refine ⟨_, rfl, ?_⟩
  have creates : Creates system (ServerSystem.setState { system with
      server := { system.server with
        nextConnId := system.server.nextConnId + 1
        connections := Function.update system.server.connections
          (system.server.connName system.server.nextConnId) (some system.accepted.length) }
      threadPool
      accepted := system.accepted ++
        [{ name := system.server.connName system.server.nextConnId, loop }] }
      system.accepted.length .kConnecting) loop :=
    ⟨rfl, rfl, rfl, rfl, rfl, rfl, rfl, rfl⟩
  have created := invariant.create creates pool bound
  refine @Invariant.enter _ _ baseLoop (.newConnection system.accepted.length) created
    (creates.connection_iff.mpr (.inr ⟨rfl, rfl⟩)) ?_ rfl free
  exact (creates.stage _).trans invariant.progress.stage_new

/-- A step that only moves tasks within a thread. -/
theorem Invariant.same_tasks {state : ServerLoop} (invariant : system.Invariant none)
    (same : state.tasks = system.tasks thread) : Invariant (system.setLoop thread state) none := by
  have tasks : (system.setLoop thread state).tasks = system.tasks := by
    rw [tasks_setLoop, same, Function.update_eq_self]
  rcases invariant with ⟨registered, progress, scheduled⟩
  refine ⟨{ registered with }, { progress with }, ?_⟩
  constructor <;> rw [tasks]
  · exact scheduled.single
  · exact scheduled.expected
  · exact scheduled.waiting
  · exact scheduled.absent

theorem step_invariant (action : Action) (invariant : system.Invariant none)
    (allowed : system.Allowed action) :
    ∃ next, system.step action = .ok next ∧ next.Invariant none := by
  cases action with
  | accept => exact invariant.accept allowed.1 allowed.2
  | close conn => exact invariant.close allowed
  | resume thread => exact invariant.resume allowed
  | swapFunctors thread =>
      refine ⟨_, rfl, invariant.same_tasks ?_⟩
      simp only [tasks, ServerLoop.tasks, FunctorQueue.outstanding_swap allowed.2]
  | takeFunctor thread =>
      have free : (system.loops thread).task = none := allowed
      simp only [step]
      split
      · exact ⟨_, rfl, invariant⟩
      · rename_i functor rest taken
        refine ⟨_, rfl, invariant.same_tasks ?_⟩
        simp [tasks, ServerLoop.tasks, free, FunctorQueue.outstanding_next taken]

theorem initial_invariant (name : List Char) (listenAddr : InetAddress) (numThreads : Nat) :
    (create name listenAddr numThreads).Invariant none := by
  refine ⟨?_, ?_, ?_⟩
  · constructor
    case pool =>
      rcases Nat.eq_zero_or_pos numThreads with rfl | positive
      · exact .inl rfl
      · exact .inr (by simpa [create, EventLoopThreadPool.start] using positive)
    case ipPort => exact listenAddr.length_toIpPort
    case nextConnId => rfl
    case bounded =>
      change 1 < 2 ^ 31
      decide
    case name => simp [create]
    case connections => simp [create]
  · constructor <;> simp [create]
  · constructor
    case single => exact .empty
    case expected => simp [create, tasks, ServerLoop.tasks]
    case waiting => simp [create]
    case absent => simp

theorem reachable_invariant :
    machine.Safe ∧ ∀ system, machine.Reachable system → system.Invariant none := by
  refine Machine.safe_of_invariant (fun system : ServerSystem => system.Invariant none) ?_ ?_
  · rintro _ ⟨name, listenAddr, numThreads, rfl⟩
    exact initial_invariant name listenAddr numThreads
  · intro current action invariant allowed
    exact step_invariant action invariant allowed

/-! ## Every run -/

theorem Progress.not_removed_iff (progress : system.Progress)
    (isConnection : system.accepted[conn]? = some connection) :
    .removeConnectionInLoop ∉ system.calls conn ↔ system.stage conn < 3 := by
  have isPrefix := List.prefix_iff_eq_take.mp (progress.events conn connection isConnection)
  unfold calls stage
  rw [isPrefix]
  generalize (system.events conn).length = stage
  rcases stage with _ | _ | _ | stage <;> simp [lifecycle]

theorem Progress.not_destroyed (progress : system.Progress)
    (isConnection : system.accepted[conn]? = some connection)
    (notDestroyed : .connectDestroyed ∉ system.calls conn) : system.stage conn < 4 := by
  have isPrefix := List.prefix_iff_eq_take.mp (progress.events conn connection isConnection)
  unfold calls at notDestroyed
  rw [isPrefix] at notDestroyed
  unfold stage
  generalize (system.events conn).length = stage at *
  rcases stage with _ | _ | _ | _ | stage
  · decide
  · decide
  · decide
  · decide
  · simp [lifecycle] at notDestroyed

/-- The connection is in `connections_`, or bound in a functor that is queued or being run. -/
def Referenced (system : ServerSystem) (conn : Nat) : Prop :=
  (∃ name, system.server.connections name = some conn) ∨
    ∃ thread, conn ∈ (system.loops thread).bound

theorem Invariant.referenced (invariant : system.Invariant none)
    (isConnection : system.accepted[conn]? = some connection)
    (notDestroyed : .connectDestroyed ∉ system.calls conn) : system.Referenced conn := by
  have bound := invariant.progress.not_destroyed isConnection notDestroyed
  by_cases registered : system.stage conn < 3
  · refine .inl ⟨connection.name, ?_⟩
    exact (invariant.registered.connections connection.name conn).mpr
      ⟨connection, isConnection, rfl, registered⟩
  · have removed : system.stage conn = 3 := by omega
    rcases invariant.scheduled.waiting conn connection isConnection removed (by simp) with
      ⟨thread, task, member, rfl⟩
    rcases invariant.scheduled.expected thread task member with ⟨_, _, stage, _⟩
    rw [removed] at stage
    refine .inr ⟨thread, ?_⟩
    rcases List.mem_append.mp member with running | queued
    · have isTask := Option.mem_toList.mp running
      cases task with
      | newConnection _ | closeCallback _ => cases stage
      | functor functor | removed conn =>
          simp [ServerLoop.bound, isTask, ServerTask.bound, ServerTask.conn]
    · rcases List.mem_map.mp queued with ⟨functor, isQueued, rfl⟩
      exact List.mem_append_right _ (List.mem_map_of_mem isQueued)

/-- No assertion fails, the names are distinct, `connections_` holds the connections that
have not been removed, the calls for each connection are made in their order, each once
and in its thread, and nothing is freed before the last of them. -/
theorem registry_exact (reachable : machine.Reachable system) :
    (∀ action, system.Allowed action → ∃ next, system.step action = .ok next) ∧
    (∀ (left right : Nat) (first second : ServerConnection),
      system.accepted[left]? = some first → system.accepted[right]? = some second →
      first.name = second.name → left = right) ∧
    (∀ name conn, system.server.connections name = some conn ↔
      ∃ connection ∈ system.accepted[conn]?, connection.name = name ∧
        .removeConnectionInLoop ∉ system.calls conn) ∧
    ∀ (conn : Nat) (connection : ServerConnection),
      system.accepted[conn]? = some connection →
      system.events conn <+: lifecycle connection.loop ∧
      (.connectDestroyed ∉ system.calls conn → system.Referenced conn) := by
  have invariant := reachable_invariant.2 system reachable
  refine ⟨reachable_invariant.1 system reachable, ?_, ?_, ?_⟩
  · intro left right first second isFirst isSecond same
    exact invariant.registered.name_inj isFirst isSecond same
  · intro name conn
    rw [invariant.registered.connections name conn]
    constructor
    · rintro ⟨connection, isConnection, hasName, stage⟩
      exact ⟨connection, isConnection, hasName,
        (invariant.progress.not_removed_iff isConnection).mpr stage⟩
    · rintro ⟨connection, isConnection, hasName, notRemoved⟩
      exact ⟨connection, isConnection, hasName,
        (invariant.progress.not_removed_iff isConnection).mp notRemoved⟩
  · intro conn connection isConnection
    exact ⟨invariant.progress.events conn connection isConnection,
      invariant.referenced isConnection⟩

/-- With one thread: the first connection is closed while the second is accepted, and has
just been erased from `connections_`. -/
theorem registry_exact_erased :
    ∃ system, machine.Reachable system ∧
      (system.accepted.length = 2 ∧ (system.loops baseLoop).task = some (.removed 0) ∧
        system.server.connections (system.server.connName 1) = none ∧
        .connectDestroyed ∉ system.calls 0) ∧
      system.Referenced 0 ∧ ∃ next, system.step (.resume baseLoop) = .ok next := by
  have run := Machine.exists_reachable machine
    (fun system => system.accepted.length = 2 ∧
      (system.loops baseLoop).task = some (.removed 0) ∧
      system.server.connections (system.server.connName 1) = none ∧
      .connectDestroyed ∉ system.calls 0)
    ⟨"echo".toList, ⟨⟨127, 0, 0, 1⟩, 2007⟩, 1, rfl⟩
    [.accept, .resume baseLoop, .swapFunctors (some 0), .takeFunctor (some 0),
      .resume (some 0), .close 0, .accept, .resume (some 0), .resume baseLoop,
      .swapFunctors baseLoop, .takeFunctor baseLoop, .resume baseLoop]
    (by decide +kernel)
  rcases run with ⟨system, reachable, two, isTask, erased, notDestroyed⟩
  rcases registry_exact reachable with ⟨safe, _, _, each⟩
  have isConnection := List.getElem?_eq_getElem (show 0 < system.accepted.length by omega)
  exact ⟨system, reachable, ⟨two, isTask, erased, notDestroyed⟩,
    (each 0 _ isConnection).2 notDestroyed, safe (.resume baseLoop) (by simp [Allowed, isTask])⟩

end ServerSystem

end Ccnet.Net
