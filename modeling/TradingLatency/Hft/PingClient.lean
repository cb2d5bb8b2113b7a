import TradingLatency.Hft.JavaConfig
import TradingLatency.Lib.Run
import Mathlib.Data.Finset.Card

/-!
# The payload size test (`PayloadSizePingClient.java`)

`main` schedules one task for each host and each payload size. The thread of the timer
runs the tasks: each run connects to the host and sends the payload, and behind the
warm-up its latency is recorded. A task whose number of runs is a multiple of
`TEST_SIZE` saves its histogram and cancels itself; the program exits when as many keys
are marked as completed as tasks were counted.

The timer starts with the first task, while `main` still schedules the others, so that
the steps of both threads interleave. `payload_size_test` says what each task has
measured and when the program exits: keys are texts of host, port and size, and with a
key that occurs twice the marks never reach the number of tasks.

A latency is in nanoseconds. The shared variables are read and written in the order of
the program. The numbers of runs are a `long` and the number of tasks is an `int`;
they are natural numbers here, which is the same below `2^63` runs of a task and
`2^31` tasks.
-/

namespace TradingLatency.PingClient

open CText JavaText JavaConfig

/-! ## Tasks -/

/-- A host with its port, and the number of bytes that are sent to it. -/
structure Target where
  hostname : Text
  port : Int32
  payloadSize : Int32
deriving DecidableEq

/-- `%d` of an `int`. -/
def formatInt (n : Int32) : Text := longToString n.toInt64

/-- `String.format("%s:%d:%d", hostname, port, payloadSize)`. -/
def Target.taskKey (t : Target) : Text :=
  t.hostname ++ ':' :: (formatInt t.port ++ ':' :: formatInt t.payloadSize)

/-- The host name and the port of an entry of `HOST`; `none` for an exception. -/
def parseHost (table : DigitTable) (settings : Settings) (host : Text) : Option (Text × Int32) :=
  match split ':' (trim host) with
  | [] => none
  | [hostname] => some (hostname, settings.websocketPort)
  | hostname :: port :: _ => (parseInt table port).map fun n => (hostname, n)

/-- What `main` goes through: a target for each host and size, and `none` where an
exception ends it. -/
def targets (table : DigitTable) (settings : Settings) : List (Option Target) :=
  (split ',' settings.host).flatMap fun host =>
    match parseHost table settings host with
    | none => [none]
    | some (hostname, port) =>
        settings.payloadSizes.map fun size => some ⟨hostname, port, size⟩

/-- `PayloadSizePingTask`, with fewer than `2^63` runs. The latencies of all runs that
succeeded are history. -/
structure Task where
  target : Target
  count : Nat
  successCount : Nat
  errorCount : Nat
  recorder : List Nat
  histogram : List Nat
  saved : Option (List Nat)
  cancelled : Bool
  latencies : List Nat

def Task.new (target : Target) : Task := ⟨target, 0, 0, 0, [], [], none, false, []⟩

/-- Whether the constructor returns: the size of an array is not negative, and a
histogram has at most five figures. -/
def constructs (settings : Settings) (target : Target) (logFile : Bool) : Bool :=
  0 ≤ target.payloadSize ∧ 0 ≤ settings.histogramSignificantFigures ∧
    settings.histogramSignificantFigures ≤ 5 ∧ logFile

/-! ## Steps -/

/-- Where `main` stands: at the head of the loops, behind `completedTasks.put`, behind
`totalTasks++`, at its end, or left by an exception. -/
inductive MainPc where
  | loop (rest : List (Option Target))
  | put (target : Target) (rest : List (Option Target))
  | counted (target : Target) (rest : List (Option Target))
  | done
  | failed
deriving DecidableEq

/-- Where the thread of the timer stands: between two runs, before
`checkAndExitIfAllCompleted` counts, before it compares, or ended by an exception. -/
inductive TimerPc where
  | idle
  | check
  | compare (completedCount : Nat)
  | dead
deriving DecidableEq

/-- Both threads. `completed` is the set of keys that `completedTasks` maps to `true`;
`totalTasks` stays below `2^31`. -/
structure State where
  main : MainPc
  timer : TimerPc
  tasks : List Task
  completed : Finset Text
  totalTasks : Nat
  exited : Bool

def State.init (plan : List (Option Target)) : State := ⟨.loop plan, .idle, [], ∅, 0, false⟩

inductive Label where
  | next
  | increment
  | schedule (logFile : Bool)
  | run (i : Nat) (latency : Option Nat)
  | count
  | compare

/-- `run` of a task behind the measurement, and what the timer does next. -/
def Task.run (settings : Settings) (task : Task) (latency : Nat) : Task × TimerPc :=
  let task := { task with
    count := task.count + 1
    successCount := task.successCount + 1
    latencies := task.latencies ++ [latency] }
  if (task.count : Int) < settings.warmupCount.toInt then (task, .idle)
  else
    let task := { task with recorder := task.recorder ++ [latency] }
    -- the remainder by zero is an exception that nobody catches
    if settings.testSize = 0 then (task, .dead)
    else if (task.count : Int).tmod settings.testSize.toInt = 0 then
      let histogram := task.histogram ++ task.recorder
      ({ task with recorder := [], histogram, saved := some histogram, cancelled := true }, .check)
    else (task, .idle)

/-- One step; `none` when it is not enabled. -/
def step (settings : Settings) (s : State) (l : Label) : Option State :=
  if s.exited then none
  else
    match l with
    | .next =>
        match s.main with
        | .loop [] => some { s with main := .done }
        | .loop (none :: _) => some { s with main := .failed }
        | .loop (some target :: rest) => some { s with
            main := .put target rest
            completed := s.completed.erase target.taskKey }
        | _ => none
    | .increment =>
        match s.main with
        | .put target rest => some { s with
            main := .counted target rest
            totalTasks := s.totalTasks + 1 }
        | _ => none
    | .schedule logFile =>
        match s.main with
        | .counted target rest =>
            if constructs settings target logFile ∧ 0 < settings.pingInterval ∧ s.timer ≠ .dead then
              some { s with main := .loop rest, tasks := s.tasks ++ [Task.new target] }
            else some { s with main := .failed }
        | _ => none
    | .run i latency =>
        match s.timer, s.tasks[i]? with
        | .idle, some task =>
            if task.cancelled then none
            else
              match latency with
              | none => some { s with
                  tasks := s.tasks.set i { task with errorCount := task.errorCount + 1 } }
              | some latency =>
                  -- `InetSocketAddress` refuses the port by an exception
                  if task.target.port < 0 ∨ 65535 < task.target.port then
                    some { s with timer := .dead }
                  else
                    let (task', timer) := task.run settings latency
                    some { s with
                      timer := timer
                      tasks := s.tasks.set i task'
                      completed := if task'.cancelled then insert task.target.taskKey s.completed
                        else s.completed }
        | _, _ => none
    | .count =>
        match s.timer with
        | .check => some { s with timer := .compare s.completed.card }
        | _ => none
    | .compare =>
        match s.timer with
        | .compare completedCount => some { s with
            timer := .idle
            exited := decide (completedCount = s.totalTasks) }
        | _ => none

/-! ## Keys -/

theorem parseNumber_longToString (n : Int64) :
    parseNumber DigitTable.ascii (longToString n) = some n.toInt := by
  have hdec := isDecimal_dec n.toInt.natAbs
  have hvalue : decimalValue (dec n.toInt.natAbs) = n.toInt.natAbs := decimalValue_dec _
  unfold longToString
  split
  · rename_i hneg
    have hempty : (dec n.toInt.natAbs).isEmpty = false := List.isEmpty_eq_false_iff.mpr hdec.1
    rw [parseNumber, if_pos (Or.inl rfl), hempty, if_neg Bool.false_ne_true,
      readDigits_decimal DigitTable.ascii 0 hdec.2]
    rw [decimalValue] at hvalue
    simp only [Option.bind_eq_bind, Option.bind_some, Option.pure_def, Option.map_some, hvalue,
      if_true, Option.some.injEq]
    omega
  · rw [parseNumber_decimal DigitTable.ascii hdec, hvalue, Option.some.injEq]
    omega

theorem formatInt_injective : Function.Injective formatInt := by
  intro m n h
  have hread := congrArg (parseNumber DigitTable.ascii) h
  rw [formatInt, formatInt, parseNumber_longToString, parseNumber_longToString,
    Option.some.injEq, Int32.toInt_toInt64, Int32.toInt_toInt64] at hread
  exact Int32.toInt_inj.mp hread

/-- No colon is printed in a number. -/
theorem colon_not_mem_formatInt (n : Int32) : ':' ∉ formatInt n := by
  have hdec := not_mem_of_isDecimal (isDecimal_dec n.toInt64.toInt.natAbs)
    (c := ':') (by decide)
  unfold formatInt longToString
  split
  · intro hmem
    rcases List.mem_cons.mp hmem with heq | hmem
    · exact absurd heq (by decide)
    · exact hdec hmem
  · exact hdec

/-- Two parts with a colon between them, of which the first has none. -/
theorem append_colon_inj {a b c d : Text} (ha : ':' ∉ a) (hc : ':' ∉ c)
    (h : a ++ ':' :: b = c ++ ':' :: d) : a = c ∧ b = d := by
  have hpre : a = c := by
    have htake := congrArg (List.takeWhile (· != ':')) h
    rwa [takeWhile_append_stop _ _ _ (by simpa using fun x hx => ne_of_mem_of_not_mem hx ha)
        (by simp), takeWhile_append_stop _ _ _
        (by simpa using fun x hx => ne_of_mem_of_not_mem hx hc) (by simp)] at htake
  subst hpre
  rw [List.append_cancel_left_eq, List.cons.injEq] at h
  exact ⟨rfl, h.2⟩

theorem taskKey_inj {t u : Target} (ht : ':' ∉ t.hostname) (hu : ':' ∉ u.hostname)
    (h : t.taskKey = u.taskKey) : t = u := by
  rcases append_colon_inj ht hu h with ⟨hhost, hrest⟩
  rcases append_colon_inj (colon_not_mem_formatInt _) (colon_not_mem_formatInt _) hrest
    with ⟨hport, hsize⟩
  cases t
  cases u
  rw [Target.mk.injEq]
  exact ⟨hhost, formatInt_injective hport, formatInt_injective hsize⟩

theorem colon_not_mem_of_parseHost {table : DigitTable} {settings : Settings} {host hostname : Text}
    {port : Int32} (h : parseHost table settings host = some (hostname, port)) : ':' ∉ hostname := by
  -- the parts lie between the colons
  have hsplit : ∀ part ∈ split ':' (trim host), ':' ∉ part := by
    intro part hpart
    unfold split at hpart
    split at hpart
    · have hmem : part ∈ (trim host).splitOn ':' := (List.rdropWhile_prefix _ _).subset hpart
      exact not_mem_of_mem_splitOn hmem
    · rename_i hcolon
      rw [List.mem_singleton.mp hpart]
      exact hcolon
  unfold parseHost at h
  split at h
  · cases h
  · -- a host without a port
    rename_i only hparts
    cases h
    exact hsplit hostname (by rw [hparts]; exact List.mem_cons_self)
  · -- a host with one
    rename_i first second rest hparts
    rcases Option.map_eq_some_iff.mp h with ⟨n, -, heq⟩
    cases heq
    exact hsplit hostname (by rw [hparts]; exact List.mem_cons_self)

theorem colon_not_mem_of_targets {table : DigitTable} {settings : Settings} {t : Target}
    (h : some t ∈ targets table settings) : ':' ∉ t.hostname := by
  rcases List.mem_flatMap.mp h with ⟨host, -, hmem⟩
  split at hmem
  · cases List.mem_singleton.mp hmem
  · rename_i hostname port hparse
    rcases List.mem_map.mp hmem with ⟨size, -, heq⟩
    cases heq
    exact colon_not_mem_of_parseHost hparse

/-! ## What a task measures -/

section Task

variable (settings : Settings)

/-- The number of the first run that is recorded. -/
def firstRecorded : Nat := (max 1 settings.warmupCount.toInt).toNat

/-- The number of runs after which a task is complete: the first multiple of
`TEST_SIZE` that is recorded. -/
def completionCount : Nat :=
  (firstRecorded settings + settings.testSize.toInt.natAbs - 1) /
    settings.testSize.toInt.natAbs * settings.testSize.toInt.natAbs

/-- What a task has recorded of its latencies. -/
def Task.recorded (task : Task) : List Nat := task.latencies.drop (firstRecorded settings - 1)

/-- Until it is complete, a task keeps what it has recorded; then it saves it. -/
structure TaskOk (task : Task) : Prop where
  count : task.count = task.latencies.length
  success : task.successCount = task.count
  running : task.cancelled = false → task.recorder = task.recorded settings ∧
    task.histogram = [] ∧ task.saved = none ∧
      (settings.testSize ≠ 0 → task.count < completionCount settings)
  complete : task.cancelled = true → settings.testSize ≠ 0 ∧
    task.count = completionCount settings ∧ task.saved = some (task.recorded settings)

variable {settings}

theorem firstRecorded_pos : 0 < firstRecorded settings := by
  unfold firstRecorded
  omega

theorem natAbs_testSize_pos (h : settings.testSize ≠ 0) : 0 < settings.testSize.toInt.natAbs := by
  rw [Int.natAbs_pos]
  intro hzero
  exact h (Int32.toInt_inj.mp hzero)

theorem firstRecorded_le_completionCount (h : settings.testSize ≠ 0) :
    firstRecorded settings ≤ completionCount settings := by
  have hpos := natAbs_testSize_pos h
  have hdiv := Nat.lt_div_mul_add hpos
    (a := firstRecorded settings + settings.testSize.toInt.natAbs - 1)
  unfold completionCount
  omega

/-- No run before that is both recorded and a multiple. -/
theorem completionCount_le {n : Nat} (h : settings.testSize ≠ 0) (hle : firstRecorded settings ≤ n)
    (hdvd : settings.testSize.toInt.natAbs ∣ n) : completionCount settings ≤ n := by
  have hpos := natAbs_testSize_pos h
  rcases hdvd with ⟨k, rfl⟩
  unfold completionCount
  rw [Nat.mul_comm _ k]
  refine Nat.mul_le_mul_right _ (Nat.le_of_lt_succ (Nat.div_lt_of_lt_mul ?_))
  rw [Nat.mul_succ]
  omega

theorem tmod_eq_zero_iff (n : Nat) :
    (n : Int).tmod settings.testSize.toInt = 0 ↔ settings.testSize.toInt.natAbs ∣ n := by
  rw [← Int.dvd_iff_tmod_eq_zero, ← Int.natAbs_dvd, Int.natCast_dvd_natCast]

theorem lt_firstRecorded_iff (n : Nat) :
    ((n + 1 : Nat) : Int) < settings.warmupCount.toInt ↔ n + 1 < firstRecorded settings := by
  unfold firstRecorded
  omega

/-- A task that goes on. -/
theorem TaskOk.of_running {task : Task} (hcount : task.count = task.latencies.length)
    (hsuccess : task.successCount = task.count) (hopen : task.cancelled = false)
    (hrunning : task.recorder = task.recorded settings ∧ task.histogram = [] ∧ task.saved = none ∧
      (settings.testSize ≠ 0 → task.count < completionCount settings)) : TaskOk settings task where
  count := hcount
  success := hsuccess
  running := fun _ => hrunning
  complete := by
    intro hcancelled
    exact absurd (hopen.symm.trans hcancelled) Bool.false_ne_true

theorem taskOk_new (target : Target) : TaskOk settings (Task.new target) := by
  refine .of_running rfl rfl rfl ⟨?_, rfl, rfl, ?_⟩
  · rw [Task.recorded]
    exact List.drop_nil.symm
  · intro h
    exact Nat.lt_of_lt_of_le firstRecorded_pos (firstRecorded_le_completionCount h)

/-- A run in the warm-up, a run that is recorded, or the run that completes the task. -/
theorem run_ok {task : Task} (h : TaskOk settings task) (hopen : task.cancelled = false)
    (latency : Nat) :
    (task.run settings latency).1.target = task.target ∧
      TaskOk settings (task.run settings latency).1 ∧
      (((task.run settings latency).1.cancelled = false ∧
          ((task.run settings latency).2 = .idle ∨ (task.run settings latency).2 = .dead)) ∨
        ((task.run settings latency).1.cancelled = true ∧
          (task.run settings latency).2 = .check)) := by
  rcases h.running hopen with ⟨hrecorder, hhistogram, hsaved, hless⟩
  have hcount : task.count = task.latencies.length := h.count
  have hlength : task.count + 1 = (task.latencies ++ [latency]).length := by
    rw [List.length_append, hcount]
    rfl
  have hsuccess : task.successCount + 1 = task.count + 1 := congrArg (· + 1) h.success
  unfold Task.run
  dsimp only
  split
  · rename_i hwarm
    have hlt := (lt_firstRecorded_iff task.count).mp hwarm
    refine ⟨rfl, .of_running hlength hsuccess hopen ⟨?_, hhistogram, hsaved, ?_⟩,
      .inl ⟨hopen, .inl rfl⟩⟩
    · -- nothing is recorded yet, neither before nor behind this run
      rw [hrecorder, Task.recorded, Task.recorded, List.drop_of_length_le (by omega),
        List.drop_of_length_le (by rw [← hlength]; omega)]
    · intro hsize
      exact hlt.trans_le (firstRecorded_le_completionCount hsize)
  · rename_i hwarm
    have hle : firstRecorded settings ≤ task.count + 1 := by
      have hnot := mt (lt_firstRecorded_iff task.count).mpr hwarm
      omega
    have hrecorded : task.recorder ++ [latency] =
        (task.latencies ++ [latency]).drop (firstRecorded settings - 1) := by
      rw [List.drop_append_of_le_length (by omega), hrecorder]
      rfl
    split
    · rename_i hzero
      refine ⟨rfl, .of_running hlength hsuccess hopen ⟨hrecorded, hhistogram, hsaved, ?_⟩,
        .inl ⟨hopen, .inr rfl⟩⟩
      intro hsize
      exact absurd hzero hsize
    · rename_i hsize
      have hlt := hless hsize
      split
      · rename_i hmod
        have hcomplete := completionCount_le hsize hle ((tmod_eq_zero_iff _).mp hmod)
        refine ⟨rfl, ⟨hlength, hsuccess, ?_, ?_⟩, .inr ⟨rfl, rfl⟩⟩
        · intro hcancelled
          cases hcancelled
        · intro _
          refine ⟨hsize, Nat.le_antisymm hlt hcomplete, ?_⟩
          rw [hhistogram, List.nil_append, hrecorded]
          rfl
      · rename_i hmod
        refine ⟨rfl, .of_running hlength hsuccess hopen ⟨hrecorded, hhistogram, hsaved, ?_⟩,
          .inl ⟨hopen, .inl rfl⟩⟩
        intro _
        refine Nat.lt_of_le_of_ne hlt ?_
        intro heq
        refine hmod ((tmod_eq_zero_iff _).mpr ?_)
        rw [show task.count + 1 = completionCount settings from heq]
        exact Nat.dvd_mul_left _ _

end Task

/-! ## The invariant -/

/-- The key of a complete task. -/
def Task.doneKey (task : Task) : Option Text :=
  if task.cancelled then some task.target.taskKey else none

/-- The keys of the complete tasks. -/
def doneKeys (tasks : List Task) : List Text := tasks.filterMap Task.doneKey

/-- The keys of all tasks that `main` goes through. -/
def planKeys (plan : List (Option Target)) : List Text :=
  plan.filterMap fun target => target.map Target.taskKey

/-- How far `main` has come, and what it has counted. -/
def MainOk (plan : List (Option Target)) (scheduled : List Target) (totalTasks : Nat) : MainPc → Prop
  | .loop rest => plan = scheduled.map some ++ rest ∧ totalTasks = scheduled.length
  | .put target rest =>
      plan = scheduled.map some ++ some target :: rest ∧ totalTasks = scheduled.length
  | .counted target rest =>
      plan = scheduled.map some ++ some target :: rest ∧ totalTasks = scheduled.length + 1
  | .done => plan = scheduled.map some ∧ totalTasks = scheduled.length
  | .failed => (∃ rest, plan = scheduled.map some ++ rest) ∧ scheduled.length ≤ totalTasks

/-- The tasks are as they should be, only complete tasks are marked, and while all
keys are different all of them are. -/
structure Inv (settings : Settings) (plan : List (Option Target)) (s : State) : Prop where
  main : MainOk plan (s.tasks.map Task.target) s.totalTasks s.main
  tasks : ∀ task ∈ s.tasks, TaskOk settings task
  marked : ∀ key ∈ s.completed, key ∈ doneKeys s.tasks
  all : (planKeys plan).Nodup → ∀ key ∈ doneKeys s.tasks, key ∈ s.completed
  comparing : ∀ n, s.timer = .compare n → n ≤ (doneKeys s.tasks).toFinset.card ∧
    ((planKeys plan).Nodup → n = (doneKeys s.tasks).length)
  exited : s.exited = true → s.totalTasks = s.tasks.length ∧
    (doneKeys s.tasks).length = s.tasks.length ∧ (doneKeys s.tasks).Nodup
  finished : (planKeys plan).Nodup → s.timer = .idle → s.tasks ≠ [] →
    (doneKeys s.tasks).length = s.tasks.length → s.totalTasks = s.tasks.length → s.exited = true

theorem inv_init (settings : Settings) (plan : List (Option Target)) :
    Inv settings plan (State.init plan) where
  main := ⟨rfl, rfl⟩
  tasks := by
    intro task hmem
    cases hmem
  marked := by
    intro key hmem
    exact absurd hmem (Finset.notMem_empty key)
  all := by
    intro _ key hmem
    cases hmem
  comparing := by
    intro n h
    cases h
  exited := by
    intro h
    cases h
  finished := by
    intro _ _ hne
    exact absurd rfl hne

section Lists

variable {plan : List (Option Target)} {tasks : List Task}

theorem MainOk.begins {scheduled : List Target} {totalTasks : Nat} {pc : MainPc}
    (h : MainOk plan scheduled totalTasks pc) :
    (∃ rest, plan = scheduled.map some ++ rest) ∧ scheduled.length ≤ totalTasks := by
  cases pc with
  | loop rest => exact ⟨⟨_, h.1⟩, h.2.ge⟩
  | put target rest => exact ⟨⟨_, h.1⟩, h.2.ge⟩
  | counted target rest =>
    refine ⟨⟨_, h.1⟩, ?_⟩
    rw [h.2]
    exact Nat.le_succ _
  | done => exact ⟨⟨[], h.1.trans (List.append_nil _).symm⟩, h.2.ge⟩
  | failed => exact h

theorem planKeys_append (scheduled : List Target) (rest : List (Option Target)) :
    planKeys (scheduled.map some ++ rest) = scheduled.map Target.taskKey ++ planKeys rest := by
  rw [planKeys, List.filterMap_append, List.filterMap_map]
  congr 1
  exact congrFun (List.filterMap_eq_map (f := Target.taskKey)) scheduled

theorem doneKeys_sublist (tasks : List Task) :
    (doneKeys tasks).Sublist (tasks.map fun task => task.target.taskKey) := by
  induction tasks with
  | nil => exact List.Sublist.refl _
  | cons task tasks ih =>
    unfold doneKeys Task.doneKey at ih ⊢
    rw [List.map_cons, List.filterMap_cons]
    split
    · exact ih.cons _
    · rename_i key hkey
      split at hkey
      · cases hkey
        exact ih.cons_cons _
      · cases hkey

/-- Different keys in the plan are different keys of the complete tasks. -/
theorem doneKeys_nodup {rest : List (Option Target)}
    (hplan : plan = (tasks.map Task.target).map some ++ rest) (h : (planKeys plan).Nodup) :
    (doneKeys tasks).Nodup := by
  rw [hplan, planKeys_append, List.map_map] at h
  exact (List.Nodup.of_append_left h).sublist (doneKeys_sublist tasks)

theorem doneKeys_length_le (tasks : List Task) : (doneKeys tasks).length ≤ tasks.length :=
  List.length_filterMap_le _ _

theorem doneKeys_length_eq_iff :
    (doneKeys tasks).length = tasks.length ↔ ∀ task ∈ tasks, task.cancelled = true := by
  rw [doneKeys, List.filterMap_length_eq_length]
  refine forall₂_congr ?_
  intro task _
  unfold Task.doneKey
  split
  · rename_i h
    simp [h]
  · rename_i h
    simp [h]

theorem doneKeys_append_new (new : Task) (h : new.cancelled = false) :
    doneKeys (tasks ++ [new]) = doneKeys tasks := by
  rw [doneKeys, List.filterMap_append, List.filterMap_cons, Task.doneKey, h]
  exact List.append_nil _

/-- A place of a list, and what a new element there makes of it. -/
theorem exists_split {i : Nat} {task : Task} (h : tasks[i]? = some task) :
    ∃ front back, tasks = front ++ task :: back ∧ ∀ t, tasks.set i t = front ++ t :: back := by
  rcases List.getElem?_eq_some_iff.mp h with ⟨hi, rfl⟩
  refine ⟨tasks.take i, tasks.drop (i + 1), ?_, ?_⟩
  · rw [List.getElem_cons_drop, List.take_append_drop]
  · intro t
    rw [List.set_eq_take_append_cons_drop, if_pos hi]

end Lists

/-! ## Steps -/

section Steps

variable {settings : Settings} {plan : List (Option Target)} {s : State}

/-- Different keys are different keys of the complete tasks. -/
theorem Inv.nodup (h : Inv settings plan s) (hkeys : (planKeys plan).Nodup) :
    (doneKeys s.tasks).Nodup := by
  rcases h.main.begins.1 with ⟨rest, hplan⟩
  exact doneKeys_nodup hplan hkeys

/-- `main` goes on, and no task is new. -/
theorem Inv.of_main (h : Inv settings plan s) (hrunning : s.exited = false) {pc : MainPc}
    {completed : Finset Text} {totalTasks : Nat}
    (hmain : MainOk plan (s.tasks.map Task.target) totalTasks pc)
    (hmarked : completed ⊆ s.completed)
    (hall : (planKeys plan).Nodup → ∀ key ∈ doneKeys s.tasks, key ∈ completed)
    (htotal : totalTasks = s.totalTasks ∨ totalTasks ≠ s.tasks.length) :
    Inv settings plan ⟨pc, s.timer, s.tasks, completed, totalTasks, false⟩ where
  main := hmain
  tasks := h.tasks
  marked := fun key hkey => h.marked key (hmarked hkey)
  all := hall
  comparing := h.comparing
  exited := by
    intro hexited
    cases hexited
  finished := by
    intro hkeys hidle hne hdone hlength
    rcases htotal with rfl | htotal
    · exact hrunning.symm.trans (h.finished hkeys hidle hne hdone hlength)
    · -- behind the increment the total is one ahead of the tasks
      exact absurd hlength htotal

theorem next_inv (h : Inv settings plan s) (hrunning : s.exited = false) {s' : State}
    (hstep : step settings s .next = some s') : Inv settings plan s' := by
  have hmain := h.main
  simp only [step, hrunning, Bool.false_eq_true, if_false] at hstep
  split at hstep
  · rename_i hpc
    cases hstep
    rw [hpc] at hmain
    refine h.of_main hrunning ?_ (Finset.Subset.refl _) h.all (.inl rfl)
    exact ⟨hmain.1.trans (List.append_nil _), hmain.2⟩
  · rename_i rest hpc
    cases hstep
    rw [hpc] at hmain
    refine h.of_main hrunning ?_ (Finset.Subset.refl _) h.all (.inl rfl)
    exact ⟨⟨_, hmain.1⟩, hmain.2.ge⟩
  · rename_i target rest hpc
    cases hstep
    rw [hpc] at hmain
    refine h.of_main hrunning ?_ (Finset.erase_subset _ _) ?_ (.inl rfl)
    · exact hmain
    intro hkeys key hkey
    refine Finset.mem_erase.mpr ⟨?_, h.all hkeys key hkey⟩
    -- the key of the new task is not among those of the tasks before it
    rintro rfl
    have hmem := (doneKeys_sublist s.tasks).subset hkey
    have hnodup := hkeys
    rw [hmain.1, planKeys_append, List.map_map] at hnodup
    exact (List.disjoint_of_nodup_append hnodup) hmem List.mem_cons_self
  · cases hstep

theorem increment_inv (h : Inv settings plan s) (hrunning : s.exited = false) {s' : State}
    (hstep : step settings s .increment = some s') : Inv settings plan s' := by
  have hmain := h.main
  simp only [step, hrunning, Bool.false_eq_true, if_false] at hstep
  split at hstep
  · rename_i target rest hpc
    cases hstep
    rw [hpc] at hmain
    have htotal : s.totalTasks = s.tasks.length := by
      rw [hmain.2, List.length_map]
    refine h.of_main hrunning ?_ (Finset.Subset.refl _) h.all (.inr ?_)
    · exact ⟨hmain.1, congrArg (· + 1) hmain.2⟩
    · omega
  · cases hstep

theorem schedule_inv (h : Inv settings plan s) (hrunning : s.exited = false) {logFile : Bool}
    {s' : State} (hstep : step settings s (.schedule logFile) = some s') :
    Inv settings plan s' := by
  have hmain := h.main
  simp only [step, hrunning, Bool.false_eq_true, if_false] at hstep
  split at hstep
  · rename_i target rest hpc
    rw [hpc] at hmain
    split at hstep
    · cases hstep
      have hdone : doneKeys (s.tasks ++ [Task.new target]) = doneKeys s.tasks :=
        doneKeys_append_new _ rfl
      have hless := doneKeys_length_le s.tasks
      refine ⟨?_, ?_, ?_, ?_, ?_, ?_, ?_⟩
      · rw [List.map_append]
        refine ⟨?_, ?_⟩
        · rw [List.map_append, List.append_assoc]
          exact hmain.1
        · rw [List.length_append]
          exact hmain.2
      · intro task hmem
        rcases List.mem_append.mp hmem with hmem | hmem
        · exact h.tasks task hmem
        · rw [List.mem_singleton.mp hmem]
          exact taskOk_new target
      · rw [hdone]
        exact h.marked
      · rw [hdone]
        exact h.all
      · rw [hdone]
        exact h.comparing
      · intro hexited
        cases hexited
      · -- the new task is not complete
        intro _ _ _ hlength
        rw [hdone, List.length_append, List.length_singleton] at hlength
        omega
    · cases hstep
      refine h.of_main hrunning ?_ (Finset.Subset.refl _) h.all (.inl rfl)
      refine ⟨⟨_, hmain.1⟩, ?_⟩
      rw [hmain.2]
      exact Nat.le_succ _
  · cases hstep

/-- The thread of the timer changes a task that is not complete. -/
theorem Inv.of_task (h : Inv settings plan s) {i : Nat}
    {task task' : Task} {timer : TimerPc} (hi : s.tasks[i]? = some task)
    (hopen : task.cancelled = false) (htarget : task'.target = task.target)
    (hok : TaskOk settings task') (htimer : ∀ n, timer ≠ .compare n)
    (hidle : timer = .idle → task'.cancelled = false) :
    Inv settings plan ⟨s.main, timer, s.tasks.set i task',
      if task'.cancelled then insert task.target.taskKey s.completed else s.completed,
      s.totalTasks, false⟩ := by
  rcases exists_split hi with ⟨front, back, htasks, hset⟩
  have htargets : (s.tasks.set i task').map Task.target = s.tasks.map Task.target := by
    rw [hset, htasks, List.map_append, List.map_append, List.map_cons, List.map_cons, htarget]
  have hkeys : ∀ key, key ∈ doneKeys (s.tasks.set i task') ↔
      key ∈ doneKeys s.tasks ∨ (task'.cancelled = true ∧ key = task.target.taskKey) := by
    intro key
    rw [hset, htasks, doneKeys, doneKeys, List.filterMap_append, List.filterMap_append,
      List.filterMap_cons, List.filterMap_cons, Task.doneKey, Task.doneKey, hopen, htarget]
    cases task'.cancelled
    · simp
    · simp only [if_true, Bool.false_eq_true, if_false, List.mem_append, List.mem_cons, true_and]
      tauto
  refine ⟨?_, ?_, ?_, ?_, ?_, ?_, ?_⟩
  · rw [htargets]
    exact h.main
  · intro t hmem
    rcases List.mem_or_eq_of_mem_set hmem with hmem | rfl
    · exact h.tasks t hmem
    · exact hok
  · intro key hkey
    rw [hkeys]
    split at hkey
    · rename_i hcancelled
      rcases Finset.mem_insert.mp hkey with rfl | hkey
      · exact .inr ⟨hcancelled, rfl⟩
      · exact .inl (h.marked key hkey)
    · exact .inl (h.marked key hkey)
  · intro hnodup key hkey
    rcases (hkeys key).mp hkey with hkey | ⟨hcancelled, rfl⟩
    · split
      · exact Finset.mem_insert_of_mem (h.all hnodup key hkey)
      · exact h.all hnodup key hkey
    · rw [if_pos hcancelled]
      exact Finset.mem_insert_self _ _
  · intro n hn
    exact absurd hn (htimer n)
  · intro hexited
    cases hexited
  · -- the task that was run is not complete, if the timer goes on
    intro _ hgoes _ hlength
    have hmem : task' ∈ s.tasks.set i task' := by
      rw [hset]
      exact List.mem_append_right _ List.mem_cons_self
    have hcancelled := doneKeys_length_eq_iff.mp hlength task' hmem
    exact absurd ((hidle hgoes).symm.trans hcancelled) Bool.false_ne_true

theorem TaskOk.error {task : Task} (h : TaskOk settings task) :
    TaskOk settings { task with errorCount := task.errorCount + 1 } :=
  ⟨h.count, h.success, h.running, h.complete⟩

/-- The thread of the timer has ended. -/
theorem Inv.dead (h : Inv settings plan s) :
    Inv settings plan ⟨s.main, .dead, s.tasks, s.completed, s.totalTasks, false⟩ where
  main := h.main
  tasks := h.tasks
  marked := h.marked
  all := h.all
  comparing := by
    intro n hn
    cases hn
  exited := by
    intro hexited
    cases hexited
  finished := by
    intro _ hidle
    cases hidle

theorem run_inv (h : Inv settings plan s) (hrunning : s.exited = false) {i : Nat}
    {latency : Option Nat} {s' : State} (hstep : step settings s (.run i latency) = some s') :
    Inv settings plan s' := by
  simp only [step, hrunning, Bool.false_eq_true, if_false] at hstep
  split at hstep
  · rename_i task htimer hi
    have hmem : task ∈ s.tasks := List.mem_of_getElem? hi
    split at hstep
    · cases hstep
    · rename_i hcancelled
      have hopen : task.cancelled = false := by simpa using hcancelled
      -- a failed run only counts as an error
      split at hstep
      · cases hstep
        have hinv : Inv settings plan ⟨s.main, s.timer,
            s.tasks.set i { task with errorCount := task.errorCount + 1 },
            if task.cancelled then insert task.target.taskKey s.completed else s.completed,
            s.totalTasks, false⟩ := by
          refine h.of_task hi hopen rfl (h.tasks task hmem).error ?_ fun _ => hopen
          intro n hn
          cases htimer.symm.trans hn
        rw [if_neg hcancelled] at hinv
        exact hinv
      · -- a run with a latency, unless the port is refused, which ends the timer
        rename_i latency
        split at hstep
        · cases hstep
          exact h.dead
        · cases hstep
          rcases run_ok (h.tasks task hmem) hopen latency with ⟨htarget, hok, hends⟩
          -- the task goes on, or it is complete and the timer looks at the total
          refine h.of_task hi hopen htarget hok ?_ ?_
          · intro n hn
            rcases hends with ⟨-, hidle | hdead⟩ | ⟨-, hcheck⟩
            · cases hidle.symm.trans hn
            · cases hdead.symm.trans hn
            · cases hcheck.symm.trans hn
          · intro hidle
            rcases hends with ⟨hgoes, -⟩ | ⟨-, hcheck⟩
            · exact hgoes
            · cases hcheck.symm.trans hidle
  · cases hstep

theorem count_inv (h : Inv settings plan s) (hrunning : s.exited = false) {s' : State}
    (hstep : step settings s .count = some s') : Inv settings plan s' := by
  simp only [step, hrunning, Bool.false_eq_true, if_false] at hstep
  split at hstep
  · cases hstep
    have hsubset : s.completed ⊆ (doneKeys s.tasks).toFinset := by
      intro key hkey
      exact List.mem_toFinset.mpr (h.marked key hkey)
    refine ⟨h.main, h.tasks, h.marked, h.all, ?_, ?_, ?_⟩
    · -- the size read here is the number of the tasks done, when no key comes twice
      intro n hn
      cases hn
      refine ⟨Finset.card_le_card hsubset, ?_⟩
      intro hkeys
      have heq : s.completed = (doneKeys s.tasks).toFinset := by
        refine Finset.Subset.antisymm hsubset ?_
        intro key hkey
        exact h.all hkeys key (List.mem_toFinset.mp hkey)
      rw [heq, List.toFinset_card_of_nodup (h.nodup hkeys)]
    · intro hexited
      cases hexited
    · intro _ hidle
      cases hidle
  · cases hstep

/-- The program exits when the number of marks is that of the tasks. -/
theorem compare_inv (h : Inv settings plan s) (hrunning : s.exited = false) {s' : State}
    (hstep : step settings s .compare = some s') : Inv settings plan s' := by
  simp only [step, hrunning, Bool.false_eq_true, if_false] at hstep
  split at hstep
  · rename_i completedCount htimer
    cases hstep
    rcases h.comparing completedCount htimer with ⟨hle, hexact⟩
    refine ⟨h.main, h.tasks, h.marked, h.all, ?_, ?_, ?_⟩
    · intro n hn
      cases hn
    · intro hexited
      have hequal : completedCount = s.totalTasks := of_decide_eq_true hexited
      have hscheduled := h.main.begins.2
      rw [List.length_map] at hscheduled
      -- the marks are at most the complete tasks, and these at most the counted ones
      have hcard := List.toFinset_card_le (doneKeys s.tasks)
      have hless := doneKeys_length_le s.tasks
      have htotal : s.totalTasks = s.tasks.length := by omega
      have hdone : (doneKeys s.tasks).length = s.tasks.length := by omega
      have hdistinct : (doneKeys s.tasks).toFinset.card = (doneKeys s.tasks).length := by omega
      exact ⟨htotal, hdone,
        Multiset.coe_nodup.mp (Multiset.toFinset_card_eq_card_iff_nodup.mp hdistinct)⟩
    · intro hkeys _ _ hdone htotal
      refine decide_eq_true ?_
      rw [hexact hkeys, hdone, htotal]
  · cases hstep

theorem step_inv (h : Inv settings plan s) {l : Label} {s' : State}
    (hstep : step settings s l = some s') : Inv settings plan s' := by
  have hrunning : s.exited = false := by
    rcases hexited : s.exited with _ | _
    · rfl
    · simp [step, hexited] at hstep
  cases l with
  | next => exact next_inv h hrunning hstep
  | increment => exact increment_inv h hrunning hstep
  | schedule logFile => exact schedule_inv h hrunning hstep
  | run i latency => exact run_inv h hrunning hstep
  | count => exact count_inv h hrunning hstep
  | compare => exact compare_inv h hrunning hstep

end Steps

/-! ## The result -/

/-- A task has measured as many latencies as it was run, and it is complete, with the
recorded ones saved, from the run with the number `completionCount` on. The program
exits when all tasks that were counted are complete, and their keys are all different;
once `main` has scheduled all targets, that takes no more. -/
structure TestOk (settings : Settings) (plan : List (Option Target)) (s : State) : Prop where
  counted : ∀ task ∈ s.tasks, task.count = task.latencies.length ∧ task.successCount = task.count
  saved : ∀ task ∈ s.tasks,
    task.saved = if task.cancelled then some (task.recorded settings) else none
  complete : settings.testSize ≠ 0 → ∀ task ∈ s.tasks,
    task.latencies.length ≤ completionCount settings ∧
      (task.cancelled = true ↔ task.latencies.length = completionCount settings)
  never : settings.testSize = 0 → ∀ task ∈ s.tasks, task.cancelled = false
  exited : s.exited = true → s.totalTasks = s.tasks.length ∧
    (∀ task ∈ s.tasks, task.cancelled = true) ∧ (s.tasks.map Task.target).Nodup
  exits : s.main = .done → s.timer = .idle → plan ≠ [] →
    (s.exited = true ↔ plan.Nodup ∧ ∀ task ∈ s.tasks, task.cancelled = true)

section Result

variable {settings : Settings} {plan : List (Option Target)} {s : State}

/-- When all tasks are complete, the keys of the complete tasks are the keys of all. -/
theorem doneKeys_eq {tasks : List Task} (h : ∀ task ∈ tasks, task.cancelled = true) :
    doneKeys tasks = (tasks.map Task.target).map Target.taskKey := by
  rw [List.map_map, doneKeys, ← List.filterMap_eq_map]
  refine List.filterMap_congr ?_
  intro task hmem
  exact if_pos (h task hmem)

/-- Different targets have different keys. -/
theorem planKeys_nodup {scheduled : List Target}
    (hcolon : ∀ target ∈ scheduled, ':' ∉ target.hostname) (h : (scheduled.map some).Nodup) :
    (planKeys (scheduled.map some)).Nodup := by
  have hkeys : planKeys (scheduled.map some) = scheduled.map Target.taskKey := by
    rw [← List.append_nil (scheduled.map some), planKeys_append]
    exact List.append_nil _
  rw [hkeys]
  refine List.Nodup.map_on ?_ (List.Nodup.of_map _ h)
  intro target hmem target' hmem' heq
  exact taskKey_inj (hcolon target hmem) (hcolon target' hmem') heq

theorem Inv.testOk (h : Inv settings plan s)
    (hcolon : ∀ target, some target ∈ plan → ':' ∉ target.hostname) : TestOk settings plan s where
  counted := fun task hmem => ⟨(h.tasks task hmem).count, (h.tasks task hmem).success⟩
  saved := by
    intro task hmem
    split
    · rename_i hcancelled
      exact ((h.tasks task hmem).complete hcancelled).2.2
    · rename_i hopen
      exact ((h.tasks task hmem).running (by simpa using hopen)).2.2.1
  complete := by
    intro hsize task hmem
    have htask := h.tasks task hmem
    rw [← htask.count]
    -- a task that has not been cancelled has runs left
    rcases hcancelled : task.cancelled with _ | _
    · have hlt := (htask.running hcancelled).2.2.2 hsize
      refine ⟨hlt.le, ?_⟩
      constructor
      · intro hfalse
        cases hfalse
      · intro heq
        exact absurd heq hlt.ne
    · have heq := (htask.complete hcancelled).2.1
      exact ⟨heq.le, fun _ => heq, fun _ => rfl⟩
  never := by
    intro hzero task hmem
    rcases hcancelled : task.cancelled with _ | _
    · rfl
    · exact absurd hzero ((h.tasks task hmem).complete hcancelled).1
  exited := by
    intro hexited
    rcases h.exited hexited with ⟨htotal, hlength, hnodup⟩
    have hall := doneKeys_length_eq_iff.mp hlength
    rw [doneKeys_eq hall] at hnodup
    exact ⟨htotal, hall, List.Nodup.of_map _ hnodup⟩
  exits := by
    intro hdone hidle hne
    have hmain := h.main
    rw [hdone] at hmain
    rcases hmain with ⟨hplan, htotal⟩
    -- the program exits once all tasks are done, if the keys differ
    constructor
    · intro hexited
      rcases h.exited hexited with ⟨-, hlength, hnodup⟩
      have hall := doneKeys_length_eq_iff.mp hlength
      rw [doneKeys_eq hall] at hnodup
      rw [hplan]
      exact ⟨(List.Nodup.of_map _ hnodup).map (Option.some_injective _), hall⟩
    · rintro ⟨hnodup, hall⟩
      have hkeys : (planKeys plan).Nodup := by
        rw [hplan] at hnodup hcolon ⊢
        refine planKeys_nodup ?_ hnodup
        intro target hmem
        exact hcolon target (List.mem_map_of_mem hmem)
      refine h.finished hkeys hidle ?_ (doneKeys_length_eq_iff.mpr hall) ?_
      · intro hnil
        rw [hnil] at hplan
        exact hne hplan
      · rw [htotal, List.length_map]

end Result

/-- Both threads, in any order, and whatever the hosts answer. -/
theorem payload_size_test (table : DigitTable) (settings : Settings) {ls : List Label} {s : State}
    (hrun : Run.exec (step settings) (State.init (targets table settings)) ls = some s) :
    TestOk settings (targets table settings) s := by
  have hinv := Run.invariant (fun _ _ _ h hstep => step_inv h hstep)
    (inv_init settings (targets table settings)) hrun
  exact hinv.testOk fun _ hmem => colon_not_mem_of_targets hmem

/-- Two sizes for one host, two runs for each task, and the first is not recorded. -/
def sampleSettings : Settings where
  coinPairs := []
  host := ['h']
  httpPort := 8888
  websocketPort := 8888
  apiToken := 3002
  testSize := 2
  useIouring := false
  exchangeClientCount := 1
  warmupCount := 2
  useSsl := false
  keyStorePath := []
  keyStorePassword := []
  ciphers := []
  pingInterval := 1000
  histogramSignificantFigures := 5
  payloadSizes := [0, 64]

/-- The first task runs before the second is scheduled; of the second, one run fails. -/
def sampleRun : List Label :=
  [.next, .increment, .schedule true, .run 0 (some 900), .next, .increment, .schedule true, .next,
    .run 0 (some 800), .count, .compare, .run 1 none, .run 1 (some 700), .run 1 (some 600),
    .count, .compare]

theorem payload_size_test_two :
    ∃ s, Run.exec (step sampleSettings)
        (State.init (targets DigitTable.ascii sampleSettings)) sampleRun = some s ∧
      (s.exited = true ∧ s.tasks.map Task.saved = [some [800], some [600]]) ∧
      TestOk sampleSettings (targets DigitTable.ascii sampleSettings) s := by
  have hrun : (Run.exec (step sampleSettings)
      (State.init (targets DigitTable.ascii sampleSettings)) sampleRun).map
        (fun s => (s.exited, s.tasks.map Task.saved)) =
      some (true, [some [800], some [600]]) := by
    decide +kernel
  rcases Option.map_eq_some_iff.mp hrun with ⟨s, hs, hvalues⟩
  exact ⟨s, hs, Prod.mk.inj hvalues, payload_size_test DigitTable.ascii sampleSettings hs⟩

end TradingLatency.PingClient
