import RouteGuard.Lib.JsString
import RouteGuard.Lib.System

/-!
# The cross-process file lock

`acquireFileLock` and `releaseFileLock` as a machine: a process stops before every file operation, and
the operations of different processes interleave. The exclusive create and the write of the metadata
are two operations.

* `Phase` : where a process is in the code, with its local variables;
* `LockWorld` : the clock, the files and the processes;
* `advance` : the next operation of a process and the code up to the one after;
* `lockSystem` : every interleaving, with processes lost at any point.
-/

namespace RouteGuard.Store
open JsString

/-! ## Configuration -/

/-- The bounds `resolveFileLockConfig` checks are part of a configuration. -/
structure FileLockConfig where
  acquireTimeoutMs : Nat
  retryIntervalMs : Nat
  staleAfterMs : Nat
  timeout_le : acquireTimeoutMs ≤ 300000
  retry_mem : 1 ≤ retryIntervalMs ∧ retryIntervalMs ≤ 5000
  stale_mem : 1000 ≤ staleAfterMs ∧ staleAfterMs ≤ 86400000

def resolveFileLockConfig (acquireTimeoutMs retryIntervalMs staleAfterMs : Nat) :
    Except String FileLockConfig :=
  if h : acquireTimeoutMs ≤ 300000 then
    if h' : 1 ≤ retryIntervalMs ∧ retryIntervalMs ≤ 5000 then
      if h'' : 1000 ≤ staleAfterMs ∧ staleAfterMs ≤ 86400000 then
        .ok ⟨acquireTimeoutMs, retryIntervalMs, staleAfterMs, h, h', h''⟩
      else .error "staleAfterMs must be between 1000 and 86400000"
    else .error "retryIntervalMs must be between 1 and 5000"
  else .error "acquireTimeoutMs must be between 0 and 300000"

def defaultFileLockConfig : FileLockConfig := ⟨5000, 20, 60000, by decide, by decide, by decide⟩

/-! ## Files -/

/-- The metadata of a lock; `acquiredAt` is an ISO instant, kept as the milliseconds it denotes. -/
structure LockMetadata where
  pid : Nat
  host : JsString
  token : JsString
  tenderId : JsString
  acquiredAt : Nat
  deriving DecidableEq, Repr

/-- A lock file: its creator's token and the time its metadata was written (both read by no process),
and its content, empty until it is written. -/
structure LockFile where
  creator : JsString
  content : Option LockMetadata
  writtenAt : Nat
  deriving DecidableEq, Repr

/-- The metadata of a content that has some and passes the length checks. -/
def parseLockMetadata : Option LockMetadata → Option LockMetadata
  | none => none
  | some m =>
    if 1 ≤ m.host.length ∧ m.host.length ≤ 256 ∧ 8 ≤ m.token.length ∧ m.token.length ≤ 128 ∧
        1 ≤ m.tenderId.length ∧ m.tenderId.length ≤ 128 then some m
    else none

/-! ## Processes -/

/-- The code before each file operation. `now` is the time read at the top of the loop; `since` the
time a successful acquire returned. -/
inductive Phase where
  | idle
  | looping (token : JsString) (deadline : Nat)
  | creating (token : JsString) (deadline now : Nat)
  | writing (token : JsString) (now : Nat)
  | inspecting (token : JsString) (deadline now : Nat)
  | reclaiming (token : JsString) (deadline : Nat) (inspected : LockMetadata)
  | checking (token : JsString) (deadline : Nat) (inspected : LockMetadata)
  | discarding (token : JsString) (deadline : Nat)
  | waiting (token : JsString) (deadline : Nat)
  | holding (token : JsString) (since : Nat)
  | releasing (token : JsString) (since : Nat)
  | unlinking (token : JsString) (since : Nat)
  deriving DecidableEq, Repr

/-- How a call ends. -/
inductive LockOutcome where
  | acquired
  | released (removed : Bool)
  | lockBusy
  | lockTimeout
  | lockCorrupt (message : String)
  deriving DecidableEq, Repr

/-- The clock, the lock path, the private paths beside it (by the token in their name), the tokens
issued so far, and the processes. -/
structure LockWorld where
  time : Nat
  lock : Option LockFile
  aside : JsString → Option LockFile
  issued : List JsString
  phase : Nat → Phase

namespace LockWorld

def goto (s : LockWorld) (p : Nat) (phase : Phase) : LockWorld :=
  { s with phase := Function.update s.phase p phase }

/-- A write through an open descriptor reaches the file that was opened, wherever it has been moved. -/
def writeThrough (s : LockWorld) (token : JsString) (m : LockMetadata) : LockWorld :=
  let write : LockFile → LockFile := fun f =>
    if f.creator = token then { f with content := some m, writtenAt := s.time } else f
  { s with lock := s.lock.map write, aside := fun t => (s.aside t).map write }

end LockWorld

/-- What a process knows besides the configuration. -/
structure LockEnv where
  config : FileLockConfig
  tenderId : JsString
  host : Nat → JsString

section Machine
variable (env : LockEnv)

/-- After the read of an existing lock. -/
def inspect (s : LockWorld) (p : Nat) (token : JsString) (deadline now : Nat) (f : LockFile) :
    LockWorld × Option LockOutcome :=
  match parseLockMetadata f.content with
  | none => (s.goto p .idle, some (.lockCorrupt "lock metadata is malformed or incomplete"))
  | some existing =>
    if existing.acquiredAt + env.config.staleAfterMs ≤ now then
      (s.goto p (.reclaiming token deadline existing), none)
    else if env.config.acquireTimeoutMs = 0 then (s.goto p .idle, some .lockBusy)
    else if deadline < now + env.config.retryIntervalMs then (s.goto p .idle, some .lockTimeout)
    else (s.goto p (.waiting token deadline), none)

/-- The next operation of process `p`; nothing for an idle one. -/
def advance (s : LockWorld) (p : Nat) : Option (LockWorld × Option LockOutcome) :=
  match s.phase p with
  | .idle => none
  | .looping token deadline => some (s.goto p (.creating token deadline s.time), none)
  | .creating token deadline now =>
    match s.lock with
    | none => some (({ s with lock := some ⟨token, none, 0⟩ } : LockWorld).goto p (.writing token now), none)
    | some _ => some (s.goto p (.inspecting token deadline now), none)
  | .writing token now =>
    some ((s.writeThrough token ⟨p, env.host p, token, env.tenderId, now⟩).goto p (.holding token s.time),
      some .acquired)
  | .inspecting token deadline now =>
    match s.lock with
    | none => some (s.goto p (.looping token deadline), none)
    | some f => some (inspect env s p token deadline now f)
  | .reclaiming token deadline inspected =>
    match s.lock with
    | none => some (s.goto p (.looping token deadline), none)
    | some f =>
      some (({ s with lock := none, aside := Function.update s.aside token (some f) } : LockWorld).goto p
        (.checking token deadline inspected), none)
  | .checking token deadline inspected =>
    match s.aside token with
    | none =>
      some (s.goto p .idle, some (.lockCorrupt "reclaimed lock became unreadable during reclamation"))
    | some f =>
      if (parseLockMetadata f.content).map LockMetadata.token = some inspected.token then
        some (s.goto p (.discarding token deadline), none)
      else
        some (s.goto p .idle, some (.lockCorrupt
          "lock was replaced during stale reclamation; the moved lock file is preserved for inspection"))
  | .discarding token deadline =>
    some (({ s with aside := Function.update s.aside token none } : LockWorld).goto p
      (.looping token deadline), none)
  | .waiting token deadline => some (s.goto p (.looping token deadline), none)
  | .holding token since => some (s.goto p (.releasing token since), none)
  | .releasing token since =>
    if (s.lock.bind fun f => parseLockMetadata f.content).map LockMetadata.token = some token then
      some (s.goto p (.unlinking token since), none)
    else some (s.goto p .idle, some (.released false))
  | .unlinking _ _ =>
    some (({ s with lock := none } : LockWorld).goto p .idle, some (.released s.lock.isSome))

/-! ## Runs -/

inductive LockLabel where
  | tick (ms : Nat)
  | enter (p : Nat) (token : JsString)
  | advance (p : Nat)
  | lost (p : Nat)
  deriving DecidableEq, Repr

/-- One step of the processes: time passes, an idle process calls `acquireFileLock` with a token never
issued before, a process makes its next file operation, or it is lost (it died, or an operation failed
unexpectedly and the call threw). -/
inductive LockStep : LockWorld → LockLabel → LockWorld → Prop
  | tick {s : LockWorld} (ms : Nat) : LockStep s (.tick ms) { s with time := s.time + ms }
  | enter {s : LockWorld} {p : Nat} {token : JsString} (hidle : s.phase p = .idle)
      (hfresh : token ∉ s.issued) :
      LockStep s (.enter p token)
        (({ s with issued := token :: s.issued } : LockWorld).goto p
          (.looping token (s.time + env.config.acquireTimeoutMs)))
  | advance {s s' : LockWorld} {p : Nat} {r : Option LockOutcome} (h : advance env s p = some (s', r)) :
      LockStep s (.advance p) s'
  | lost {s : LockWorld} {p : Nat} : LockStep s (.lost p) (s.goto p .idle)

/-- Before anyone calls: the lock is absent, or a valid stale one that a dead process left. -/
structure LockStart (s : LockWorld) : Prop where
  idle : s.phase = fun _ => .idle
  aside : s.aside = fun _ => none
  lock : ∀ f, s.lock = some f → ∃ m, parseLockMetadata f.content = some m ∧
    m.acquiredAt + env.config.staleAfterMs ≤ s.time ∧ f.writtenAt = m.acquiredAt ∧
    f.creator = m.token ∧ m.token ∈ s.issued

def lockSystem : System LockWorld LockLabel where
  init := LockStart env
  step := LockStep env

end Machine

end RouteGuard.Store
