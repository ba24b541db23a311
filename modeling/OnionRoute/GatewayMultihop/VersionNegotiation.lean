import OnionRoute.GatewayMultihop.Handshake

/-! Which versions the exit selects, and which of them the entry takes. -/

namespace OnionRoute.GatewayMultihop

open Library Process
open GatewayProtocol (Block maxConnectionWindow maxStreamWindow)

variable {client : ClientHello} {server : ServerHello} {u : Unit}

section Hellos

variable {v : ProtocolVersion} {config entry exit : HandshakeConfig}
  {identity entryIdentity exitIdentity : PeerIdentity} {clientNonce serverNonce : Block nonceSize}
  {connectionId : Block connectionIdSize} {unixSeconds : Int64} {now : ℤ}

lemma versionFromWire_toWire (v : ProtocolVersion) : versionFromWire v.toWire = .ok v := by
  have hmajor : v.major.toNat < 65536 := v.major.toNat_lt
  have hminor : v.minor.toNat < 65536 := v.minor.toNat_lt
  simp [versionFromWire, ProtocolVersion.toWire, pure, Except.pure, hmajor, hminor]

namespace HandshakeConfig

structure Ranged (config : HandshakeConfig) : Prop where
  major_ne : config.minimumVersion.major ≠ 0
  major_eq : config.minimumVersion.major = config.maximumVersion.major
  le : config.minimumVersion ≤ config.maximumVersion

structure Stated (config : HandshakeConfig) : Prop where
  sessions : config.limits.maximumConcurrentSessions ≠ 0 ∧
    config.limits.maximumConcurrentSessions ≤ 4096
  connectionWindow : config.limits.initialConnectionWindow ≠ 0 ∧
    config.limits.initialConnectionWindow.toNat ≤ maxConnectionWindow
  sessionWindow : config.limits.initialSessionWindow ≠ 0 ∧
    config.limits.initialSessionWindow.toNat ≤ maxStreamWindow

lemma ranged_of_validate (h : config.validate = .ok ()) : config.Ranged := by
  rw [validate, bind_eq_ok] at h
  obtain ⟨_, -, h⟩ := h
  rw [ite_throw_eq_ok] at h
  push Not at h
  obtain ⟨⟨hne, heq, hle⟩, -⟩ := h
  exact ⟨hne, heq, hle⟩

lemma stated_of_validate (h : config.validate = .ok ()) : config.Stated := by
  rw [validate, bind_eq_ok] at h
  obtain ⟨_, h, -⟩ := h
  rw [ProtocolLimits.validate, ite_throw_eq_ok] at h
  push Not at h
  obtain ⟨⟨-, -, hsessions, hsessions', hconnection, hconnection', hsession, hsession', -⟩, -⟩ := h
  exact ⟨⟨hsessions, hsessions'⟩, ⟨hconnection, hconnection'⟩, ⟨hsession, hsession'⟩⟩

end HandshakeConfig

lemma wellFormed_of_validate (h : identity.validate now = .ok ()) :
    serviceIdWellFormed identity.serviceId = true := by
  rw [PeerIdentity.validate, ite_throw_eq_ok] at h
  push Not at h
  exact h.1.1

lemma selectVersion_clientHello (hentry : entry.Ranged) :
    selectVersion (entry.clientHello entryIdentity clientNonce unixSeconds) exit = .ok v ↔
      entry.minimumVersion.major = exit.minimumVersion.major ∧
      max entry.minimumVersion exit.minimumVersion ≤
        min entry.maximumVersion exit.maximumVersion ∧
      v = min entry.maximumVersion exit.maximumVersion := by
  simp only [selectVersion, HandshakeConfig.clientHello, okOr, bind_eq_ok, pure_eq_ok,
    exists_eq_left', versionFromWire_toWire, Except.ok.injEq, guard_eq_ok, not_or, not_lt, ne_eq,
    not_not, gt_iff_lt]
  constructor
  · rintro ⟨⟨-, hmajor, -⟩, hle, rfl⟩
    exact ⟨hmajor, hle, rfl⟩
  · rintro ⟨hmajor, hle, rfl⟩
    exact ⟨⟨hentry.major_eq, hmajor, hentry.le⟩, hle, rfl⟩

lemma validateServiceId_eq_ok {value : String} :
    validateServiceId value = .ok u ↔ serviceIdWellFormed value = true := by
  simp only [validateServiceId, ite_throw_eq_ok, not_not, and_true]

lemma validateServerHello_serverHello (hentry : entry.Ranged) (hexit : exit.Stated)
    (hidentity : serviceIdWellFormed exitIdentity.serviceId = true) :
    validateServerHello
        (exit.serverHello exitIdentity v clientNonce serverNonce connectionId) exitIdentity
        (entry.clientHello entryIdentity clientNonce unixSeconds) entry = .ok () ↔
      v = entry.maximumVersion := by
  simp only [validateServerHello, HandshakeConfig.serverHello, HandshakeConfig.clientHello, okOr,
    bind_eq_ok, pure_eq_ok, exists_eq_left', versionFromWire_toWire, Except.ok.injEq, guard_eq_ok,
    validateServiceId_eq_ok, not_or, ne_eq, not_not]
  constructor
  · rintro ⟨⟨-, -, -, -, -, -, -, hv, -⟩, -⟩
    exact hv
  · rintro rfl
    have hsessions : UInt32.ofNat exit.limits.maximumConcurrentSessions ≠ 0 := by
      obtain ⟨hne, hle⟩ := hexit.sessions
      rw [ne_eq, ← UInt32.toNat_inj, UInt32.toNat_ofNat_of_lt' (by simp [UInt32.size]; omega)]
      simpa using hne
    exact ⟨⟨trivial, trivial, trivial, serverNonce.2, connectionId.2, hentry.le.not_gt, lt_irrefl _, rfl,
      hsessions, hexit.connectionWindow.1, hexit.connectionWindow.2.not_gt, hexit.sessionWindow.1,
      hexit.sessionWindow.2.not_gt⟩, hidentity⟩

lemma error_of_validateServerHello {e : ErrorCode}
    (h : validateServerHello server identity client entry = .error e) : e = .protocolViolation := by
  have hok {w : Option WireVersion} {e : ErrorCode}
      (h : okOr .protocolViolation w = .error e) : e = .protocolViolation := by
    cases w with
    | none => exact (throw_eq_error.mp h).symm
    | some w => exact (pure_eq_error.mp h).elim
  have hversion {w : WireVersion} {e : ErrorCode} (h : versionFromWire w = .error e) :
      e = .protocolViolation := by
    rw [versionFromWire] at h
    split at h
    · exact (pure_eq_error.mp h).elim
    · exact (throw_eq_error.mp h).symm
  simp only [validateServerHello, bind_eq_error, guard_eq_error, validateServiceId,
    ite_throw_eq_error] at h
  obtain h | ⟨w, -, h | ⟨selected, -, ⟨-, rfl⟩ | ⟨-, -, rfl⟩⟩⟩ := h
  · exact hok h
  · exact hversion h
  · rfl
  · rfl

/-- The version that the exit selects is the smaller of the two maxima, and the entry accepts it
exactly when the exit has the entry's maximum as well. -/
theorem serverHello_accepted_iff (hentry : entry.validate = .ok ()) (hexit : exit.validate = .ok ())
    (hidentity : exitIdentity.validate now = .ok ())
    (hselect : selectVersion (entry.clientHello entryIdentity clientNonce unixSeconds) exit =
      .ok v) :
    v = min entry.maximumVersion exit.maximumVersion ∧
    validateServerHello
        (exit.serverHello exitIdentity v clientNonce serverNonce connectionId) exitIdentity
        (entry.clientHello entryIdentity clientNonce unixSeconds) entry =
      if entry.maximumVersion ≤ exit.maximumVersion then .ok () else .error .protocolViolation := by
  have hrange := HandshakeConfig.ranged_of_validate hentry
  have hstated := HandshakeConfig.stated_of_validate hexit
  have hname := wellFormed_of_validate hidentity
  obtain ⟨-, -, rfl⟩ := (selectVersion_clientHello hrange).mp hselect
  refine ⟨rfl, ?_⟩
  by_cases hle : entry.maximumVersion ≤ exit.maximumVersion
  · rw [if_pos hle]
    exact (validateServerHello_serverHello hrange hstated hname).mpr (min_eq_left hle)
  · rw [if_neg hle]
    cases houtcome : validateServerHello _ exitIdentity _ entry with
    | ok =>
      have hmin := (validateServerHello_serverHello hrange hstated hname).mp houtcome
      exact absurd (min_eq_left_iff.mp hmin) hle
    | error e => rw [error_of_validateServerHello houtcome]

end Hellos

namespace Sample

def config (minimum maximum : UInt16) : HandshakeConfig where
  minimumVersion := ⟨1, minimum⟩
  maximumVersion := ⟨1, maximum⟩
  limits := .default

def identity (role : GatewayRole) : PeerIdentity where
  serviceId := "gateway"
  role
  purpose := .interGatewayDataPlane
  validFrom := 0
  validUntil := 10

def nonce : Block nonceSize := ⟨List.replicate 32 7, by decide⟩

def connectionId : Block connectionIdSize := ⟨List.replicate 16 9, by decide⟩

def hello (config : HandshakeConfig) : ClientHello :=
  config.clientHello (identity .entry) nonce 0

def handshake : Exchange InterGatewayFrame ErrorCode ProtocolConnection ProtocolConnection where
  left := connectEntry (fun _ => nonce) ⟨identity .exit, nonce⟩ (identity .entry) (config 0 2) 0
    (some nonce)
  right := acceptExit (fun _ => nonce) ⟨identity .entry, nonce⟩ (identity .exit) (config 1 2)
    .default ⟨0, 0⟩ (some nonce, some connectionId)
  toLeft := []
  toRight := []

end Sample

open Sample in
theorem serverHello_accepted_same_maximum :
    (config 0 2).validate = .ok () ∧ (config 1 2).validate = .ok () ∧
    (identity .exit).validate 5 = .ok () ∧
    selectVersion (hello (config 0 2)) (config 1 2) = .ok ⟨1, 2⟩ ∧
    validateServerHello ((config 1 2).serverHello (identity .exit) ⟨1, 2⟩ nonce nonce
      connectionId) (identity .exit) (hello (config 0 2)) (config 0 2) = .ok () := by
  have hentry : (config 0 2).validate = .ok () := by decide
  have hexit : (config 1 2).validate = .ok () := by decide
  have hidentity : (identity .exit).validate 5 = .ok () := by decide
  have hselect : selectVersion (hello (config 0 2)) (config 1 2) = .ok ⟨1, 2⟩ := by decide
  refine ⟨hentry, hexit, hidentity, hselect, ?_⟩
  exact (serverHello_accepted_iff hentry hexit hidentity hselect).2

open Sample in
theorem serverHello_of_older_exit_refused :
    (config 0 2).validate = .ok () ∧ (config 0 1).validate = .ok () ∧
    selectVersion (hello (config 0 2)) (config 0 1) = .ok ⟨1, 1⟩ ∧
    validateServerHello ((config 0 1).serverHello (identity .exit) ⟨1, 1⟩ nonce nonce
      connectionId) (identity .exit) (hello (config 0 2)) (config 0 2) =
        .error .protocolViolation := by
  decide

section Programs

variable {sha256 : Bytes → Block 32} {tls : AuthenticatedTls} {identity : PeerIdentity}
  {config : HandshakeConfig} {v : ProtocolVersion} {clientNonce : Block nonceSize} {wall : ℤ}
  {entropy : Option (Block nonceSize)} {cache : ReplayCache} {clock : Clock}
  {exitEntropy : Option (Block nonceSize) × Option (Block connectionIdSize)}
  {c d : ProtocolConnection} {ts us : List (Transfer InterGatewayFrame)} {β : Type} {b : β}
  {frame : InterGatewayFrame} {maximum : ℕ}

lemma completes_writeFrame_bind {f : Unit → Gateway β} :
    Completes (writeFrame frame maximum >>= f) ts b ↔
      checkFrameSize frame maximum = .ok () ∧
        ∃ rest, ts = .sent frame :: rest ∧ Completes (f ()) rest b := by
  simp only [writeFrame, completes_bind (f := f), completes_lift_bind, Process.write,
    completes_writes, completes_ends]
  constructor
  · rintro ⟨_, us, vs, rfl, ⟨_, hsize, rest, rfl, -, rfl⟩, h⟩
    exact ⟨hsize, vs, rfl, h⟩
  · rintro ⟨hsize, rest, rfl, h⟩
    exact ⟨(), [.sent frame], rest, rfl, ⟨(), hsize, [], rfl, trivial, rfl⟩, h⟩

lemma completes_readFrame_bind {f : InterGatewayFrame → Gateway β}
    (h : Completes (readFrame maximum >>= f) ts b) :
    ∃ frame rest, ts = .received frame :: rest ∧ Completes (f frame) rest b := by
  rw [completes_bind] at h
  obtain ⟨frame, us, vs, rfl, hread, h⟩ := h
  simp only [readFrame, completes_guard, completes_read_bind, completes_pure] at hread
  obtain ⟨-, message, rest, rfl, -, rfl, rfl⟩ := hread
  exact ⟨message, vs, rfl, h⟩

lemma expectServerHello_eq_ok {body : Option Body} (h : expectServerHello body = .ok server) :
    body = some (.serverHello server) := by
  unfold expectServerHello at h
  split at h
  · rw [pure_eq_ok.mp h]
  · exact (throw_eq_ok.mp h).elim

lemma eq_of_exactly {n : ℕ} {bytes : Bytes} {block : Block n} (h : exactly n bytes = .ok block) :
    bytes = block := by
  unfold exactly at h
  split_ifs at h
  cases h
  rfl

lemma selected_of_validateServerHello
    (h : validateServerHello server identity client config = .ok u) :
    ∃ w, server.selectedVersion = some w ∧ versionFromWire w = .ok config.maximumVersion := by
  simp only [validateServerHello, bind_eq_ok, guard_eq_ok, not_or, ne_eq, not_not] at h
  obtain ⟨w, hw, selected, hselected, ⟨-, -, -, -, -, -, -, rfl, -⟩, -⟩ := h
  exact ⟨w, okOr_eq_ok.mp hw, hselected⟩

lemma selectVersion_le {hello : ClientHello} (h : selectVersion hello config = .ok v) :
    v ≤ config.maximumVersion := by
  simp only [selectVersion, bind_eq_ok, guard_eq_ok, pure_eq_ok] at h
  obtain ⟨_, -, _, -, _, -, _, -, -, -, rfl⟩ := h
  exact min_le_right _ _

lemma selectVersion_of_admitted {hello : ClientHello}
    (h : admitted tls config cache clock frame = .ok (hello, clientNonce, v)) :
    selectVersion hello config = .ok v := by
  unfold admitted at h
  split at h
  next admission _ hresult =>
    cases h
    simp only [admitHello, state_guard_eq_ok, state_bind_eq_ok, state_lift_eq_ok, state_pure_eq_ok,
      Prod.mk.injEq] at hresult
    obtain ⟨-, _, _, -, _, _, -, _, _, -, _, _, -, _, _, ⟨hselect, -⟩, ⟨rfl, rfl, rfl⟩, -⟩ := hresult
    exact hselect
  next => cases h

lemma transfers_of_connectEntry
    (h : Completes (connectEntry sha256 tls identity config wall entropy) ts c) :
    ∃ hello frame server finished binding, ts = [.sent hello, .received frame, .received finished,
        .sent binding] ∧ frame.body = some (.serverHello server) ∧
      (∃ w, server.selectedVersion = some w ∧ versionFromWire w = .ok c.version) ∧
      c.version = config.maximumVersion ∧ server.connectionId = c.connectionId := by
  simp only [connectEntry, completes_lift_bind, completes_writeFrame_bind] at h
  obtain ⟨_, -, _, -, _, -, clientNonce, -, seconds, -, -, rest, rfl, h⟩ := h
  obtain ⟨frame, rest, rfl, hserver⟩ := completes_readFrame_bind h
  simp only [completes_guard, completes_lift_bind] at hserver
  obtain ⟨-, server, hbody, _, hvalid, selected, hselected, version, hversion, _, -, -,
    connectionId, hconnection, serverNonce, -, hfinished⟩ := hserver
  obtain ⟨finished, rest, rfl, hlast⟩ := completes_readFrame_bind hfinished
  simp only [completes_lift_bind, completes_writeFrame_bind, completes_pure] at hlast
  obtain ⟨_, -, -, rest, rfl, flow, -, rfl, rfl⟩ := hlast
  rw [okOr_eq_ok] at hselected
  obtain ⟨w, hw, hmaximum⟩ := selected_of_validateServerHello hvalid
  obtain rfl : selected = w := Option.some.inj (hselected.symm.trans hw)
  rw [hversion, Except.ok.injEq] at hmaximum
  exact ⟨_, frame, server, finished, _, rfl, expectServerHello_eq_ok hbody,
    ⟨selected, hselected, hversion⟩, hmaximum, eq_of_exactly hconnection⟩

lemma transfers_of_acceptExit
    (h : Completes (acceptExit sha256 tls identity config cache clock exitEntropy) ts c) :
    ∃ hello frame server finished binding, ts = [.received hello, .sent frame, .sent binding,
        .received finished] ∧ frame.body = some (.serverHello server) ∧
      server.selectedVersion = some c.version.toWire ∧ server.connectionId = c.connectionId ∧
      c.version ≤ config.maximumVersion := by
  simp only [acceptExit, completes_lift_bind] at h
  obtain ⟨_, -, _, -, _, -, h⟩ := h
  obtain ⟨frame, rest, rfl, hserver⟩ := completes_readFrame_bind h
  simp only [completes_lift_bind, completes_writeFrame_bind, Prod.exists] at hserver
  obtain ⟨hello, clientNonce, selected, hadmission, serverNonce, -, connectionId, -, -, rest, rfl,
    -, rest, rfl, hfinished⟩ := hserver
  obtain ⟨finished, rest, rfl, hlast⟩ := completes_readFrame_bind hfinished
  simp only [completes_lift_bind, completes_pure] at hlast
  obtain ⟨_, -, flow, -, rfl, rfl⟩ := hlast
  exact ⟨frame, _, _, finished, _, rfl, rfl, rfl, rfl,
    selectVersion_le (selectVersion_of_admitted hadmission)⟩

/-- Two ends that both come to a connection agree on its version, the greatest of the entry, and on
its identifier, in whatever order they read and write. -/
theorem version_of_connection {entry exit : HandshakeConfig} {entryTls exitTls : AuthenticatedTls}
    {entryIdentity exitIdentity : PeerIdentity} {l r : List InterGatewayFrame}
    (h : Exchange.Reaches
      ⟨connectEntry sha256 entryTls entryIdentity entry wall entropy,
        acceptExit sha256 exitTls exitIdentity exit cache clock exitEntropy, [], []⟩
      ⟨.ends (.ok c), .ends (.ok d), l, r⟩) :
    c.version = entry.maximumVersion ∧ d.version = entry.maximumVersion ∧
      entry.maximumVersion ≤ exit.maximumVersion ∧ c.connectionId = d.connectionId := by
  obtain ⟨ts, us, hentry, hexit, hread, -⟩ := h.completes
  obtain ⟨_, frame, server, finished, _, rfl, hbody, ⟨w, hw, hversion⟩, hmaximum, hid⟩ :=
    transfers_of_connectEntry hentry
  obtain ⟨_, frame', server', _, finished', rfl, hbody', hselected, hid', hle⟩ :=
    transfers_of_acceptExit hexit
  -- the entry has read the frame that the exit wrote first
  have hframes : [frame', finished'] = frame :: finished :: l := hread
  obtain ⟨rfl, -⟩ := List.cons.inj hframes
  obtain rfl : server = server' := by simpa [hbody] using hbody'
  obtain rfl : w = d.version.toWire := Option.some.inj (hw.symm.trans hselected)
  rw [versionFromWire_toWire, Except.ok.injEq] at hversion
  rw [← hmaximum, ← hversion]
  exact ⟨rfl, rfl, hle, Subtype.ext (hid.symm.trans hid')⟩

theorem version_of_connection_same_maximum :
    ∃ c d l r, Sample.handshake.Reaches ⟨.ends (.ok c), .ends (.ok d), l, r⟩ ∧
      c.version = ⟨1, 2⟩ ∧ d.version = ⟨1, 2⟩ ∧ c.connectionId = d.connectionId := by
  have hends : (Exchange.advance^[8] Sample.handshake).succeeded = true := by decide +kernel
  obtain ⟨c, d, l, r, h⟩ := Exchange.reaches_of_succeeded 8 hends
  obtain ⟨hentry, hexit, -, hid⟩ := version_of_connection h
  exact ⟨c, d, l, r, h, hentry, hexit, hid⟩

end Programs

end OnionRoute.GatewayMultihop
