import RecomputerGateway.Rs485Client

namespace RecomputerGateway.Rs485

/-!
# The same security settings on every transport

The credentials and the root store are set up by each transport's own code.
A user name without a password, and a CA certificate that the authentication
mode does not ask for, are the settings that the transports treat differently.
-/

variable {Cert Key Root : Type}

def withTransport (config : MqttConfig) (transport : String) : MqttConfig :=
  { config with transport := transport }

def transports : List String :=
  ["tcp", "ssl", "tls", "ws", "wss"]

def tlsTransports : List String :=
  ["ssl", "tls", "wss"]

/-- The same set of root certificates, and the same client certificate. -/
def SameTls (first second : TlsConfig Cert Key Root) : Prop :=
  (∀ root, root ∈ first.roots ↔ root ∈ second.roots) ∧
    first.clientAuth = second.clientAuth

/-- Both calls fail, or both succeed with the same TLS configuration. -/
def SameSecurity :
    Except String (MqttOptions Cert Key Root) →
      Except String (MqttOptions Cert Key Root) → Prop
  | .ok first, .ok second =>
      ∃ firstTls secondTls,
        first.transport.tls? = some firstTls ∧
          second.transport.tls? = some secondTls ∧
            SameTls firstTls secondTls
  | .error _, .error _ => True
  | .ok _, .error _ => False
  | .error _, .ok _ => False

/-- Changing the transport alone does not change the security. -/
structure TreatsTransportsEqually
    (library : TlsLibrary Cert Key Root)
    (config : MqttConfig) :
    Prop where
  credentials :
    ∀ first ∈ transports,
      ∀ second ∈ transports,
        ∀ firstOptions secondOptions,
          setupMqttClient library (withTransport config first) =
              .ok firstOptions →
            setupMqttClient library (withTransport config second) =
                .ok secondOptions →
              firstOptions.credentials = secondOptions.credentials
  security :
    ∀ first ∈ tlsTransports,
      ∀ second ∈ tlsTransports,
        SameSecurity
          (setupMqttClient library (withTransport config first))
          (setupMqttClient library (withTransport config second))

/-- The CA certificates are the system's. -/
def CaIsSystem
    (library : TlsLibrary Cert Key Root)
    (config : MqttConfig) :
    Prop :=
  ∃ roots,
    rootCertStore library config = .ok roots ∧
      ∀ root, root ∈ library.serverRoots ↔ root ∈ roots

/-! ## The credentials -/

/-- WebSockets present the same credentials unless the password is missing. -/
theorem basicCredentials_eq_wsCredentials_iff (config : MqttConfig) :
    basicCredentials config = wsCredentials config ↔
      (config.username.isSome → config.password.isSome) := by
  unfold basicCredentials wsCredentials
  cases config.username with
  | none =>
      simp
  | some username =>
      cases config.password <;> simp

/-- `tcp` and `ws` never fail, so that their credentials can be compared. -/
theorem credentials_iff
    (library : TlsLibrary Cert Key Root)
    (config : MqttConfig) :
    (∀ first ∈ transports,
      ∀ second ∈ transports,
        ∀ firstOptions secondOptions,
          setupMqttClient library (withTransport config first) =
              .ok firstOptions →
            setupMqttClient library (withTransport config second) =
                .ok secondOptions →
              firstOptions.credentials = secondOptions.credentials) ↔
      (config.username.isSome → config.password.isSome) := by
  rw [← basicCredentials_eq_wsCredentials_iff]
  constructor
  · intro agree
    exact
      agree "tcp" (by simp [transports]) "ws" (by simp [transports]) _ _
        rfl rfl
  · intro same first _ second _ firstOptions secondOptions
      firstSetUp secondSetUp
    have presented :
        ∀ transport,
          presentedCredentials (withTransport config transport) =
            basicCredentials config := by
      intro transport
      unfold presentedCredentials
      split
      · exact same.symm
      · rfl
    rw [credentials_of_setupMqttClient firstSetUp,
      credentials_of_setupMqttClient secondSetUp, presented, presented]

/-! ## The TLS configuration -/

/-- Both arms fail, or both make the same TLS configuration. -/
def SameOutcome :
    Except String (TlsConfig Cert Key Root) →
      Except String (TlsConfig Cert Key Root) → Prop
  | .ok first, .ok second => SameTls first second
  | .error _, .error _ => True
  | .ok _, .error _ => False
  | .error _, .ok _ => False

theorem SameOutcome.refl
    (outcome : Except String (TlsConfig Cert Key Root)) :
    SameOutcome outcome outcome := by
  cases outcome with
  | error error =>
      trivial
  | ok tlsConfig =>
      exact ⟨fun _ => Iff.rfl, rfl⟩

theorem SameOutcome.symm
    {first second : Except String (TlsConfig Cert Key Root)}
    (same : SameOutcome first second) :
    SameOutcome second first := by
  cases first with
  | error error =>
      cases second with
      | error other => trivial
      | ok tlsConfig => exact same
  | ok tlsConfig =>
      cases second with
      | error other => exact same
      | ok other =>
          exact ⟨fun root => (same.1 root).symm, same.2.symm⟩

/-- Two set-ups with TLS are compared by their TLS configurations. -/
theorem sameSecurity_iff
    (library : TlsLibrary Cert Key Root)
    {first second : MqttConfig}
    (firstTls : UsesTls first)
    (secondTls : UsesTls second) :
    SameSecurity (setupMqttClient library first)
        (setupMqttClient library second) ↔
      SameOutcome (tlsConfigOf library first)
        (tlsConfigOf library second) := by
  obtain ⟨firstOptions, firstOutcome, firstFacts⟩ :=
    setupMqttClient_tls library firstTls
  obtain ⟨secondOptions, secondOutcome, secondFacts⟩ :=
    setupMqttClient_tls library secondTls
  rw [firstOutcome, secondOutcome]
  cases tlsConfigOf library first with
  | error error =>
      cases tlsConfigOf library second <;> exact Iff.rfl
  | ok one =>
      cases tlsConfigOf library second with
      | error error =>
          exact Iff.rfl
      | ok other =>
          simp [Except.map, SameSecurity, SameOutcome, firstFacts,
            secondFacts]

/-- The arms agree in the modes that verify the server. -/
theorem sslConfig_eq_wssConfig
    (library : TlsLibrary Cert Key Root)
    {config : MqttConfig}
    (verifies : VerifiesServer config) :
    sslConfig library config = wssConfig library config := by
  unfold sslConfig wssConfig
  rcases verifies with isServer | isMutual
  · simp only [isServer, ↓reduceIte, String.reduceEq]
    cases rootCertStore library config <;> rfl
  · simp only [isMutual, ↓reduceIte, String.reduceEq]

/-- In any other mode only `wss` looks at the CA certificate. -/
theorem sameOutcome_iff
    (library : TlsLibrary Cert Key Root)
    (config : MqttConfig) :
    SameOutcome (sslConfig library config) (wssConfig library config) ↔
      VerifiesServer config ∨ CaIsSystem library config := by
  by_cases verifies : VerifiesServer config
  · rw [sslConfig_eq_wssConfig library verifies]
    simp [SameOutcome.refl, verifies]
  · simp only [verifies, false_or]
    simp only [VerifiesServer, not_or] at verifies
    unfold sslConfig wssConfig CaIsSystem
    simp only [verifies.1, verifies.2, ↓reduceIte]
    cases rootCertStore library config with
    | error error =>
        simp [Except.bind, SameOutcome]
    | ok roots =>
        simp [Except.bind, SameOutcome, SameTls]

/-- The transports with TLS take one of the two arms. -/
theorem security_iff
    (library : TlsLibrary Cert Key Root)
    (config : MqttConfig) :
    (∀ first ∈ tlsTransports,
      ∀ second ∈ tlsTransports,
        SameSecurity
          (setupMqttClient library (withTransport config first))
          (setupMqttClient library (withTransport config second))) ↔
      VerifiesServer config ∨ CaIsSystem library config := by
  rw [← sameOutcome_iff]
  have usesTls :
      ∀ transport ∈ tlsTransports,
        UsesTls (withTransport config transport) := by
    intro transport member
    simpa [tlsTransports, UsesTls, withTransport] using member
  constructor
  · intro agree
    have compared :=
      agree "ssl" (by simp [tlsTransports]) "wss" (by simp [tlsTransports])
    rw [sameSecurity_iff library (usesTls _ (by simp [tlsTransports]))
      (usesTls _ (by simp [tlsTransports]))] at compared
    exact compared
  · intro same first firstMember second secondMember
    rw [sameSecurity_iff library (usesTls first firstMember)
      (usesTls second secondMember)]
    unfold tlsConfigOf
    split
    · split
      · exact .refl _
      · exact same.symm
    · split
      · exact same
      · exact .refl _

/--
The transports treat the settings equally exactly if a user name comes with a
password, and a CA certificate with a mode that verifies the server, unless it
is the same as the system's.
-/
theorem treatsTransportsEqually_iff
    (library : TlsLibrary Cert Key Root)
    (config : MqttConfig) :
    TreatsTransportsEqually library config ↔
      (config.username.isSome → config.password.isSome) ∧
        (VerifiesServer config ∨ CaIsSystem library config) := by
  rw [← credentials_iff library config, ← security_iff library config]
  exact
    ⟨fun equal => ⟨equal.credentials, equal.security⟩,
      fun both => ⟨both.1, both.2⟩⟩

/-- Only a user name, and the path of a CA certificate. -/
def usernameUci : Uci := fun _ option =>
  if option = "username" then some "gateway\n"
  else if option = "ca_cert" then some "/etc/luci-uploads/ca.pem\n"
  else none

/-- A user name without a password is presented on a WebSocket only. -/
theorem not_treatsTransportsEqually :
    ¬ TreatsTransportsEqually withoutPem (loadMqttConfig usernameUci) := by
  intro equal
  have agree :=
    equal.credentials "tcp" (by simp [transports]) "ws"
      (by simp [transports]) _ _ rfl rfl
  have differ :
      basicCredentials (loadMqttConfig usernameUci) ≠
        wsCredentials (loadMqttConfig usernameUci) := by
    decide +kernel
  exact differ agree

end RecomputerGateway.Rs485
