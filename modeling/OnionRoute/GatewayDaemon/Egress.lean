import OnionRoute.Library.Table
import OnionRoute.Library.Trace
import OnionRoute.GatewayDaemon.ScanCounting

/-! Opening TCP streams: each step is the code between two points at which another task can be
seen. -/

namespace OnionRoute.GatewayDaemon

open Library

structure Deployment where
  limits : LimitConfig
  maxTokenStreams : ℕ → ℕ
  tokenKey : ℕ → Bytes
  hmac : Bytes → Bytes
  parsesAsIp : Bytes → Bool

structure SessionLease where
  id : ℕ
  token : ℕ
  expiresAt : ℕ
  tokenExpiresAt : ℕ

def SessionLease.ensureActive (session : SessionLease) (now : ℕ) : GatewayResult Unit :=
  if session.expiresAt ≤ now ∨ session.tokenExpiresAt ≤ now then .error .sessionExpired else .ok ()

inductive Counter
  | session
  | token
  | gateway
  deriving DecidableEq

inductive Stage
  | starting
  | permitted
  | entered
  | tookSession
  | tookToken
  | undoing (held : List Counter)
  | leased
  | resolving
  | dialing (addresses : List IpAddr) (lastError : GatewayErrorCode)
  | checked (address : IpAddr) (rest : List IpAddr) (lastError : GatewayErrorCode)
  | connecting (addresses : List IpAddr) (lastError : GatewayErrorCode)
  | opened
  | releasing (held : List Counter) (error : Option GatewayErrorCode)
  | finished (error : Option GatewayErrorCode)

def Counter.all : List Counter := [.session, .token, .gateway]

def Stage.held : Stage → List Counter
  | starting | permitted | entered | finished _ => []
  | tookSession => [.session]
  | tookToken => [.session, .token]
  | undoing held => held
  | releasing held _ => held
  | leased | resolving | dialing _ _ | checked _ _ _ | connecting _ _ | opened => Counter.all

structure OpenTask where
  session : SessionLease
  destination : Destination
  port : UInt16
  stage : Stage
  permittedUnder : Option AclEngine := none
  reservedAt : Option ℕ := none
  checkedUnder : Option AclEngine := none

structure Gateway where
  now : ℕ
  acl : AclEngine
  draining : Bool
  scans : ℕ → ScanWindow
  sessionStreams : ℕ → ℕ
  tokenStreams : ℕ → ℕ
  streams : ℕ
  calls : Table ℕ OpenTask

namespace Gateway

def count (g : Gateway) (session : SessionLease) : Counter → ℕ
  | .session => g.sessionStreams session.id
  | .token => g.tokenStreams session.token
  | .gateway => g.streams

def setCount (g : Gateway) (session : SessionLease) (n : ℕ) : Counter → Gateway
  | .session => { g with sessionStreams := Function.update g.sessionStreams session.id n }
  | .token => { g with tokenStreams := Function.update g.tokenStreams session.token n }
  | .gateway => { g with streams := n }

def limit (d : Deployment) (session : SessionLease) : Counter → ℕ
  | .session => d.limits.maxStreamsPerSession
  | .token => d.maxTokenStreams session.token
  | .gateway => d.limits.maxStreamsGlobal

def fetchSub (g : Gateway) (session : SessionLease) (c : Counter) : Gateway :=
  g.setCount session (g.count session c - 1) c

def incrementBounded (d : Deployment) (g : Gateway) (session : SessionLease) (c : Counter) :
    GatewayResult Gateway :=
  if g.count session c + 1 ≤ limit d session c then
    .ok (g.setCount session (g.count session c + 1) c)
  else
    .error .resourceExhausted

def setStage (g : Gateway) (k : ℕ) (task : OpenTask) (stage : Stage) : Gateway :=
  { g with calls := g.calls.insert k { task with stage } }

/-- The checks of `reserve_stream` before its counters; `rate` is the answer of the token bucket. -/
def enter (d : Deployment) (g : Gateway) (task : OpenTask) (rate : GatewayResult Unit) :
    GatewayResult Unit × Gateway :=
  let token := task.session.token
  match task.session.ensureActive g.now with
  | .error e => (.error e, g)
  | .ok () =>
    if g.draining then
      (.error .draining, g)
    else
      match rate with
      | .error e => (.error e, g)
      | .ok () =>
        let observed := observeDestination d.limits d.hmac (d.tokenKey token) g.now
          (scanMaterial task.destination task.port) (g.scans token)
        (observed.1, { g with scans := Function.update g.scans token observed.2 })

/-- One step of the call `k`. The label is the address that the dialer is called with. -/
inductive Moves (d : Deployment) (g : Gateway) (k : ℕ) (task : OpenTask) :
    Option (IpAddr × UInt16) → Gateway → Prop
  | inactive {e : GatewayErrorCode} : task.stage = .starting →
      task.session.ensureActive g.now = .error e →
      Moves d g k task none (g.setStage k task (.finished (some e)))
  | deny {e : GatewayErrorCode} : task.stage = .starting →
      task.session.ensureActive g.now = .ok () →
      g.acl.checkDestination d.parsesAsIp task.destination task.port = .error e →
      Moves d g k task none (g.setStage k task (.finished (some e)))
  | permit : task.stage = .starting → task.session.ensureActive g.now = .ok () →
      g.acl.checkDestination d.parsesAsIp task.destination task.port = .ok () →
      Moves d g k task none (g.setStage k { task with permittedUnder := some g.acl } .permitted)
  | refuse {e : GatewayErrorCode} {rate : GatewayResult Unit} {h : Gateway} :
      task.stage = .permitted → enter d g task rate = (.error e, h) →
      Moves d g k task none (h.setStage k task (.finished (some e)))
  | enter {rate : GatewayResult Unit} {h : Gateway} :
      task.stage = .permitted → enter d g task rate = (.ok (), h) →
      Moves d g k task none (h.setStage k { task with reservedAt := some g.now } .entered)
  | takeSession {h : Gateway} : task.stage = .entered →
      incrementBounded d g task.session .session = .ok h →
      Moves d g k task none (h.setStage k task .tookSession)
  | sessionFull {e : GatewayErrorCode} : task.stage = .entered →
      incrementBounded d g task.session .session = .error e →
      Moves d g k task none (g.setStage k task (.finished (some e)))
  | takeToken {h : Gateway} : task.stage = .tookSession →
      incrementBounded d g task.session .token = .ok h →
      Moves d g k task none (h.setStage k task .tookToken)
  | tokenFull {e : GatewayErrorCode} : task.stage = .tookSession →
      incrementBounded d g task.session .token = .error e →
      Moves d g k task none (g.setStage k task (.undoing [.session]))
  | takeGlobal {h : Gateway} : task.stage = .tookToken →
      incrementBounded d g task.session .gateway = .ok h →
      Moves d g k task none (h.setStage k task .leased)
  | globalFull {e : GatewayErrorCode} : task.stage = .tookToken →
      incrementBounded d g task.session .gateway = .error e →
      Moves d g k task none (g.setStage k task (.undoing [.token, .session]))
  | undo {c : Counter} {held : List Counter} : task.stage = .undoing (c :: held) →
      Moves d g k task none ((g.fetchSub task.session c).setStage k task (.undoing held))
  | undone : task.stage = .undoing [] →
      Moves d g k task none (g.setStage k task (.finished (some .resourceExhausted)))
  | circuitOpen : task.stage = .leased →
      Moves d g k task none (g.setStage k task (.releasing Counter.all (some .circuitOpen)))
  | resolve {hostname : Bytes} : task.stage = .leased → task.destination = .hostname hostname →
      Moves d g k task none (g.setStage k task .resolving)
  | direct {address : IpAddr} : task.stage = .leased → task.destination = .ip address →
      Moves d g k task none (g.setStage k task (.dialing [address] .egressFailure))
  -- The resolver may answer with any list of addresses.
  | resolved {addresses : List IpAddr} : task.stage = .resolving →
      Moves d g k task none (g.setStage k task (.dialing addresses .egressFailure))
  | unresolved {e : GatewayErrorCode} : task.stage = .resolving →
      Moves d g k task none (g.setStage k task (.releasing Counter.all (some e)))
  | denyAddress {address : IpAddr} {rest : List IpAddr} {last e : GatewayErrorCode} :
      task.stage = .dialing (address :: rest) last → g.acl.checkIp address = .error e →
      Moves d g k task none (g.setStage k task (.releasing Counter.all (some e)))
  -- `check_ip` gives the lock of the rules back, so another thread may replace them before the call.
  | check {address : IpAddr} {rest : List IpAddr} {last : GatewayErrorCode} :
      task.stage = .dialing (address :: rest) last → g.acl.checkIp address = .ok () →
      Moves d g k task none
        (g.setStage k { task with checkedUnder := some g.acl } (.checked address rest last))
  | dial {address : IpAddr} {rest : List IpAddr} {last : GatewayErrorCode} :
      task.stage = .checked address rest last →
      Moves d g k task (some (address, task.port)) (g.setStage k task (.connecting rest last))
  | connected {rest : List IpAddr} {last : GatewayErrorCode} :
      task.stage = .connecting rest last → Moves d g k task none (g.setStage k task .opened)
  | connectFailed {rest : List IpAddr} {last e : GatewayErrorCode} :
      task.stage = .connecting rest last →
      Moves d g k task none (g.setStage k task (.dialing rest e))
  | exhausted {last : GatewayErrorCode} : task.stage = .dialing [] last →
      Moves d g k task none (g.setStage k task (.releasing Counter.all (some last)))
  -- The stream that was opened ends and drops its lease.
  | close : task.stage = .opened →
      Moves d g k task none (g.setStage k task (.releasing Counter.all none))
  | release {c : Counter} {held : List Counter} {error : Option GatewayErrorCode} :
      task.stage = .releasing (c :: held) error →
      Moves d g k task none ((g.fetchSub task.session c).setStage k task (.releasing held error))
  | finish {error : Option GatewayErrorCode} : task.stage = .releasing [] error →
      Moves d g k task none (g.setStage k task (.finished error))

inductive Event
  | call (k : ℕ) (dialed : Option (IpAddr × UInt16))
  | other

inductive Step (d : Deployment) : Gateway → Event → Gateway → Prop
  | move {g h : Gateway} {k : ℕ} {task : OpenTask} {dialed : Option (IpAddr × UInt16)} :
      g.calls.lookup k = some task → Moves d g k task dialed h → Step d g (.call k dialed) h
  | begins {g : Gateway} {k : ℕ} {session : SessionLease} {destination : Destination}
      {port : UInt16} : g.calls.lookup k = none →
      Step d g .other
        { g with calls := g.calls.insert k { session, destination, port, stage := .starting } }
  | elapse {g : Gateway} {now : ℕ} : g.now ≤ now → Step d g .other { g with now }
  | drain {g : Gateway} {draining : Bool} : Step d g .other { g with draining }
  | replace {g : Gateway} {acl : AclEngine} {networks : List IpNet} {suffixes : List Bytes} :
      g.acl.replaceEmergencyDenies networks suffixes = .ok acl → Step d g .other { g with acl }

def start (acl : AclEngine) (scans : ℕ → ScanWindow) : Gateway where
  now := 0
  acl := acl
  draining := false
  scans := scans
  sessionStreams := fun _ => 0
  tokenStreams := fun _ => 0
  streams := 0
  calls := ∅

end Gateway

def Counter.shared (c : Counter) (a b : SessionLease) : Prop :=
  match c with
  | .session => a.id = b.id
  | .token => a.token = b.token
  | .gateway => True

instance (c : Counter) (a b : SessionLease) : Decidable (c.shared a b) := by
  cases c <;> dsimp only [Counter.shared] <;> infer_instance

def OpenTask.share (session : SessionLease) (c : Counter) (task : OpenTask) : ℕ :=
  if c.shared task.session session then task.stage.held.count c else 0

variable {stage : Stage} {rate : GatewayResult Unit}

namespace Gateway

variable {d : Deployment} {g h : Gateway} {k : ℕ} {task : OpenTask} {a b session : SessionLease}
  {c c' : Counter} {dialed : Option (IpAddr × UInt16)}

lemma count_setCount (g : Gateway) (a b : SessionLease) (n : ℕ) (c c' : Counter) :
    (g.setCount a n c).count b c' = if c = c' ∧ c.shared a b then n else g.count b c' := by
  cases c <;> cases c' <;>
    simp [setCount, count, Counter.shared, Function.update_apply, eq_comm]

@[simp] lemma count_setStage (g : Gateway) (k : ℕ) (task : OpenTask) (stage : Stage)
    (c : Counter) : (g.setStage k task stage).count session c = g.count session c := by
  cases c <;> rfl

lemma setCount_keeps (g : Gateway) (a : SessionLease) (n : ℕ) (c : Counter) :
    (g.setCount a n c).now = g.now ∧ (g.setCount a n c).acl = g.acl ∧
      (g.setCount a n c).calls = g.calls := by
  cases c <;> exact ⟨rfl, rfl, rfl⟩

lemma count_eq_of_shared (hs : c.shared a b) : g.count a c = g.count b c := by
  cases c with
  | session => exact congrArg g.sessionStreams hs
  | token => exact congrArg g.tokenStreams hs
  | gateway => rfl

lemma limit_eq_of_shared (hs : c.shared a b) : limit d a c = limit d b c := by
  cases c with
  | session => rfl
  | token => exact congrArg d.maxTokenStreams hs
  | gateway => rfl

structure Effect (d : Deployment) (g : Gateway) (k : ℕ) (task : OpenTask) (h : Gateway)
    (task' : OpenTask) : Prop where
  calls : h.calls = g.calls.insert k task'
  session : task'.session = task.session
  destination : task'.destination = task.destination
  port : task'.port = task.port
  now : h.now = g.now
  acl : h.acl = g.acl
  count : ∀ b c, h.count b c + task.share b c = g.count b c + task'.share b c
  bounded : ∀ b c, g.count b c ≤ limit d b c → h.count b c ≤ limit d b c

lemma enter_keeps {result : GatewayResult Unit} (he : enter d g task rate = (result, h)) :
    h.now = g.now ∧ h.acl = g.acl ∧ h.calls = g.calls ∧ ∀ b c, h.count b c = g.count b c := by
  have hrefl : g.now = g.now ∧ g.acl = g.acl ∧ g.calls = g.calls ∧
      ∀ b c, g.count b c = g.count b c := ⟨rfl, rfl, rfl, fun _ _ => rfl⟩
  simp only [enter] at he
  split at he
  · cases he
    exact hrefl
  · split_ifs at he
    · cases he
      exact hrefl
    · split at he
      · cases he
        exact hrefl
      · cases he
        exact ⟨rfl, rfl, rfl, fun _ c => by cases c <;> rfl⟩

lemma Effect.of_held {task' : OpenTask} (hs : task'.session = task.session)
    (hd : task'.destination = task.destination) (hp : task'.port = task.port)
    (hh : ∀ c, stage.held.count c = task.stage.held.count c) (hnow : h.now = g.now)
    (hacl : h.acl = g.acl) (hcalls : h.calls = g.calls) (hc : ∀ b c, h.count b c = g.count b c) :
    Effect d g k task (h.setStage k task' stage) { task' with stage } := by
  refine ⟨by simp [setStage, hcalls], hs, hd, hp, hnow, hacl, ?_, ?_⟩
  · intro b c
    simp [OpenTask.share, hs, hh, hc]
  · intro b c hb
    simpa [hc] using hb

lemma Effect.of_take (hi : incrementBounded d g task.session c = .ok h)
    (hh : ∀ c', stage.held.count c' = task.stage.held.count c' + if c' = c then 1 else 0) :
    Effect d g k task (h.setStage k task stage) { task with stage } := by
  unfold incrementBounded at hi
  split_ifs at hi with hroom
  cases hi
  obtain ⟨hnow, hacl, hcalls⟩ := setCount_keeps g task.session (g.count task.session c + 1) c
  refine ⟨by simp [setStage, hcalls], rfl, rfl, rfl, hnow, hacl, ?_, ?_⟩
  · intro b c'
    simp only [count_setStage, count_setCount, OpenTask.share, hh]
    by_cases hc : c = c'
    · subst hc
      by_cases hs : c.shared task.session b
      · simp only [hs, and_self, if_true, count_eq_of_shared hs]
        omega
      · simp [hs]
    · simp [hc, Ne.symm hc]
  · intro b c' hb
    simp only [count_setStage, count_setCount]
    split_ifs with hc
    · obtain ⟨rfl, hs⟩ := hc
      rwa [limit_eq_of_shared hs] at hroom
    · exact hb

lemma Effect.of_drop {held : List Counter}
    (hle : ∀ b c, task.share b c ≤ g.count b c) (ht : task.stage.held = c :: held)
    (hh : stage.held = held) :
    Effect d g k task ((g.fetchSub task.session c).setStage k task stage) { task with stage } := by
  obtain ⟨hnow, hacl, hcalls⟩ := setCount_keeps g task.session (g.count task.session c - 1) c
  refine ⟨by simp [setStage, fetchSub, hcalls], rfl, rfl, rfl, hnow, hacl, ?_, ?_⟩
  · intro b c'
    have hb := hle b c'
    simp only [count_setStage, fetchSub, count_setCount, OpenTask.share, hh, ht,
      List.count_cons] at hb ⊢
    by_cases hc : c = c'
    · subst hc
      by_cases hs : c.shared task.session b
      · simp only [hs, and_self, if_true, beq_self_eq_true, count_eq_of_shared hs] at hb ⊢
        omega
      · simp [hs]
    · simp [hc]
  · intro b c' hb
    simp only [count_setStage, fetchSub, count_setCount]
    split_ifs with hc
    · obtain ⟨rfl, hs⟩ := hc
      rw [count_eq_of_shared hs]
      omega
    · exact hb

end Gateway

def Stage.isPermitted : Stage → Bool
  | starting | undoing _ | releasing _ _ | finished _ => false
  | _ => true

def Stage.isReserved : Stage → Bool
  | starting | permitted | undoing _ | releasing _ _ | finished _ => false
  | _ => true

def Stage.target : Stage → Option IpAddr
  | checked address _ _ => some address
  | _ => none

structure OpenTask.Vetted (d : Deployment) (config : AclConfig) (now : ℕ) (task : OpenTask) :
    Prop where
  permitted : task.stage.isPermitted = true → ∃ acl, task.permittedUnder = some acl ∧
    acl.config = config ∧
    acl.checkDestination d.parsesAsIp task.destination task.port = .ok ()
  reserved : task.stage.isReserved = true → ∃ instant, task.reservedAt = some instant ∧
    instant ≤ now ∧ task.session.ensureActive instant = .ok ()
  checked : ∀ address, task.stage.target = some address → ∃ acl, task.checkedUnder = some acl ∧
    acl.config = config ∧ acl.checkIp address = .ok ()

variable {config : AclConfig}

namespace Gateway

variable {d : Deployment} {g h : Gateway} {k : ℕ} {task : OpenTask}
  {dialed : Option (IpAddr × UInt16)}

lemma vetted_setStage {now : ℕ} (hv : task.Vetted d config now)
    (hp : stage.isPermitted = true → task.stage.isPermitted = true)
    (hr : stage.isReserved = true → task.stage.isReserved = true) (ht : stage.target = none) :
    OpenTask.Vetted d config now { task with stage } where
  permitted h := hv.permitted (hp h)
  reserved h := hv.reserved (hr h)
  checked _ h := absurd (ht.symm.trans h) (Option.some_ne_none _).symm

lemma enter_active (he : enter d g task rate = (.ok (), h)) :
    task.session.ensureActive g.now = .ok () := by
  simp only [enter] at he
  split at he
  · cases he
  · assumption

lemma vetted_ended {now : ℕ} (hp : stage.isPermitted = false) (hr : stage.isReserved = false)
    (ht : stage.target = none) : OpenTask.Vetted d config now { task with stage } where
  permitted h := absurd (hp.symm.trans h) (by decide)
  reserved h := absurd (hr.symm.trans h) (by decide)
  checked _ h := absurd (ht.symm.trans h) (Option.some_ne_none _).symm

lemma Moves.next (hm : Moves d g k task dialed h) (hle : ∀ b c, task.share b c ≤ g.count b c) :
    ∃ task', Effect d g k task h task' ∧
      (task.Vetted d g.acl.config g.now → task'.Vetted d g.acl.config g.now) := by
  have hsame : ∀ b c, g.count b c = g.count b c := fun _ _ => rfl
  cases hm with
  | permit hs ha hc =>
    refine ⟨_, .of_held rfl rfl rfl ?_ rfl rfl rfl hsame, fun _ => ⟨?_, ?_, ?_⟩⟩
    · intro c
      rw [hs]
      rfl
    · exact fun _ => ⟨g.acl, rfl, rfl, hc⟩
    · intro h
      cases h
    · intro address h
      cases h
  | refuse hs he =>
    obtain ⟨hnow, hacl, hcalls, hcount⟩ := enter_keeps he
    refine ⟨_, .of_held rfl rfl rfl ?_ hnow hacl hcalls hcount, fun _ => vetted_ended rfl rfl rfl⟩
    intro c
    rw [hs]
    rfl
  | enter hs he =>
    obtain ⟨hnow, hacl, hcalls, hcount⟩ := enter_keeps he
    refine ⟨_, .of_held rfl rfl rfl ?_ hnow hacl hcalls hcount, fun hv => ⟨?_, ?_, ?_⟩⟩
    · intro c
      rw [hs]
      rfl
    · exact fun _ => hv.permitted (by rw [hs]; rfl)
    · exact fun _ => ⟨g.now, rfl, le_rfl, enter_active he⟩
    · intro address h
      cases h
  | check hs hc =>
    refine ⟨_, .of_held rfl rfl rfl ?_ rfl rfl rfl hsame, fun hv => ⟨?_, ?_, ?_⟩⟩
    · intro c
      rw [hs]
      rfl
    · exact fun _ => hv.permitted (by rw [hs]; rfl)
    · exact fun _ => hv.reserved (by rw [hs]; rfl)
    · rintro address ⟨⟩
      exact ⟨g.acl, rfl, rfl, hc⟩
  | takeSession hs hi | takeToken hs hi | takeGlobal hs hi =>
    refine ⟨_, .of_take hi ?_, fun hv => vetted_setStage hv ?_ ?_ rfl⟩
    · intro c
      rw [hs]
      cases c <;> rfl
    · exact fun _ => by rw [hs]; rfl
    · exact fun _ => by rw [hs]; rfl
  | @undo c held hs | @release c held error hs =>
    have hheld : task.stage.held = c :: held := by rw [hs]; rfl
    exact ⟨_, .of_drop hle hheld rfl, fun _ => vetted_ended rfl rfl rfl⟩
  | inactive hs | deny hs | sessionFull hs | tokenFull hs | globalFull hs | undone hs
  | circuitOpen hs | unresolved hs | denyAddress hs | exhausted hs | close hs | finish hs =>
    refine ⟨_, .of_held rfl rfl rfl ?_ rfl rfl rfl hsame, fun _ => vetted_ended rfl rfl rfl⟩
    intro c
    rw [hs]
    cases c <;> rfl
  | resolve hs | direct hs | resolved hs | dial hs | connected hs | connectFailed hs =>
    refine ⟨_, .of_held rfl rfl rfl ?_ rfl rfl rfl hsame, fun hv => vetted_setStage hv ?_ ?_ rfl⟩
    · intro c
      rw [hs]
      rfl
    · exact fun _ => by rw [hs]; rfl
    · exact fun _ => by rw [hs]; rfl

structure Sound (d : Deployment) (config : AclConfig) (g : Gateway) : Prop where
  rules : g.acl.config = config
  count : ∀ session c, g.count session c = Table.sumBy (OpenTask.share session c) g.calls
  bounded : ∀ session c, g.count session c ≤ limit d session c
  vetted : ∀ k task, g.calls.lookup k = some task → task.Vetted d config g.now

lemma sound_start (d : Deployment) (acl : AclEngine) (scans : ℕ → ScanWindow) :
    Sound d acl.config (start acl scans) := by
  refine ⟨rfl, ?_, ?_, ?_⟩
  · intro session c
    cases c <;> rfl
  · intro session c
    cases c <;> exact Nat.zero_le _
  · intro k task hk
    cases hk

lemma Sound.share_le (hs : Sound d config g) (hk : g.calls.lookup k = some task)
    (session : SessionLease) (c : Counter) : task.share session c ≤ g.count session c := by
  rw [hs.count, Table.sumBy_of_lookup hk]
  exact Nat.le_add_right _ _

lemma Sound.move (hs : Sound d config g) (hk : g.calls.lookup k = some task)
    (hm : Moves d g k task dialed h) : Sound d config h := by
  obtain ⟨task', heffect, hvetted⟩ := hm.next (hs.share_le hk)
  rw [hs.rules] at hvetted
  refine ⟨heffect.acl ▸ hs.rules, ?_, fun b c => heffect.bounded b c (hs.bounded b c), ?_⟩
  · intro session c
    have hcount := heffect.count session c
    have hsum := hs.count session c
    rw [Table.sumBy_of_lookup hk] at hsum
    rw [heffect.calls, Table.sumBy_insert]
    omega
  · intro j other hj
    rw [heffect.now]
    rw [heffect.calls] at hj
    by_cases hjk : j = k
    · subst hjk
      rw [AList.lookup_insert] at hj
      cases hj
      exact hvetted (hs.vetted j task hk)
    · rw [Table.lookup_insert_of_ne _ hjk] at hj
      exact hs.vetted j other hj

lemma count_congr (hs : h.sessionStreams = g.sessionStreams) (ht : h.tokenStreams = g.tokenStreams)
    (hg : h.streams = g.streams) (session : SessionLease) (c : Counter) :
    h.count session c = g.count session c := by
  cases c <;> simp [count, hs, ht, hg]

lemma Sound.surround (hs : Sound d config g) (hrules : h.acl.config = config)
    (hcount : ∀ b c, h.count b c = g.count b c) (hcalls : h.calls = g.calls) (hnow : g.now ≤ h.now) :
    Sound d config h := by
  refine ⟨hrules, ?_, ?_, ?_⟩
  · intro b c
    rw [hcount, hcalls]
    exact hs.count b c
  · intro b c
    rw [hcount]
    exact hs.bounded b c
  · intro k task hk
    rw [hcalls] at hk
    obtain ⟨hp, hr, hc⟩ := hs.vetted k task hk
    refine ⟨hp, fun h => ?_, hc⟩
    obtain ⟨instant, hi, hle, ha⟩ := hr h
    exact ⟨instant, hi, hle.trans hnow, ha⟩

lemma Sound.begins {session : SessionLease} {destination : Destination}
    {port : UInt16} (hs : Sound d config g) (hk : g.calls.lookup k = none) : Sound d config
      { g with calls := g.calls.insert k { session, destination, port, stage := .starting } } := by
  refine ⟨hs.rules, ?_, ?_, ?_⟩
  · intro b c
    refine (count_congr rfl rfl rfl b c).trans ((hs.count b c).trans ?_)
    rw [Table.sumBy_insert, Table.erase_of_lookup hk]
    simp [OpenTask.share, Stage.held]
  · intro b c
    exact (count_congr rfl rfl rfl b c).trans_le (hs.bounded b c)
  · intro j task hj
    by_cases hjk : j = k
    · subst hjk
      rw [AList.lookup_insert] at hj
      cases hj
      exact ⟨fun h => (by cases h), fun h => (by cases h), fun _ h => (by cases h)⟩
    · rw [Table.lookup_insert_of_ne _ hjk] at hj
      exact hs.vetted j task hj

lemma Sound.step {e : Event} (hs : Sound d config g) (hstep : Step d g e h) :
    Sound d config h := by
  cases hstep with
  | move hk hm => exact hs.move hk hm
  | begins hk => exact hs.begins hk
  | elapse hle => exact hs.surround hs.rules (count_congr rfl rfl rfl) rfl hle
  | drain => exact hs.surround hs.rules (count_congr rfl rfl rfl) rfl le_rfl
  | replace hr =>
    unfold AclEngine.replaceEmergencyDenies at hr
    split_ifs at hr
    cases hr
    exact hs.surround hs.rules (count_congr rfl rfl rfl) rfl le_rfl

lemma sound_of_trace {acl : AclEngine} {scans : ℕ → ScanWindow} {es : List Event}
    (h : Trace (Step d) (start acl scans) es g) : Sound d acl.config g :=
  h.invariant (fun hstep hs => hs.step hstep) (sound_start d acl scans)

end Gateway

end OnionRoute.GatewayDaemon
