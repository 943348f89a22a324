import RecomputerGateway.Rs485Config

namespace RecomputerGateway.Rs485

/-!
# Setting up the MQTT client

`setup_mqtt_client` turns the configuration into the options of the client.
What the libraries make of the PEM texts is given; the transport and the
authentication mode are any strings.
-/

variable {Cert Key Root : Type}

/-- What `rustls-pemfile`, `rustls` and `webpki-roots` do. -/
structure TlsLibrary (Cert Key Root : Type) where
  /-- `certs`: an item for each certificate of a text, or an error. -/
  certs : String → List (Except String Cert)
  /-- `pkcs8_private_keys`. -/
  pkcs8PrivateKeys : String → List (Except String Key)
  /-- What `RootCertStore::add` adds for a certificate. -/
  trustAnchor : Cert → Except String Root
  /-- Whether `with_client_auth_cert` accepts a chain with its key. -/
  clientAuth : List Cert → Key → Except String Unit
  /-- `webpki_roots::TLS_SERVER_ROOTS`. -/
  serverRoots : List Root
  serverRoots_ne_nil : serverRoots ≠ []

/-- The libraries on texts without a PEM block. -/
def withoutPem : TlsLibrary Unit Unit Unit where
  certs _ := []
  pkcs8PrivateKeys _ := []
  trustAnchor _ := .ok ()
  clientAuth _ _ := .ok ()
  serverRoots := [()]
  serverRoots_ne_nil := List.cons_ne_nil _ _

/-- A `ClientConfig` of `rustls`. -/
structure TlsConfig (Cert Key Root : Type) where
  roots : List Root
  /-- The certificates and the key that the client presents. -/
  clientAuth : Option (List Cert × Key)

inductive Transport (Cert Key Root : Type) where
  | tcp
  | tls (config : TlsConfig Cert Key Root)
  | ws
  | wss (config : TlsConfig Cert Key Root)

structure MqttOptions (Cert Key Root : Type) where
  clientId : String
  brokerAddr : String
  port : Nat
  /-- In seconds. -/
  keepAlive : Nat
  credentials : Option (String × String)
  transport : Transport Cert Key Root

/-- `MqttOptions::new`, and the options that are set on it. -/
def newOptions
    (config : MqttConfig)
    (brokerAddr : String)
    (credentials : Option (String × String))
    (transport : Transport Cert Key Root) :
    MqttOptions Cert Key Root where
  clientId := config.clientId
  brokerAddr := brokerAddr
  port := config.port
  keepAlive := config.keepalive
  credentials := credentials
  transport := transport

/-- `collect::<Result<_, _>>()`. -/
def collect {α : Type} : List (Except String α) → Except String (List α)
  | [] => .ok []
  | .error error :: _ => .error error
  | .ok item :: rest =>
      match collect rest with
      | .error error => .error error
      | .ok items => .ok (item :: items)

/-- The loop over the certificates with `root_cert_store.add(cert?)?`. -/
def addCerts
    (library : TlsLibrary Cert Key Root) :
    List (Except String Cert) → Except String (List Root)
  | [] => .ok []
  | .error error :: _ => .error error
  | .ok cert :: rest =>
      match library.trustAnchor cert with
      | .error error => .error error
      | .ok root =>
          match addCerts library rest with
          | .error error => .error error
          | .ok roots => .ok (root :: roots)

/-- The root store: the CA certificates, or the system's. -/
def rootCertStore
    (library : TlsLibrary Cert Key Root)
    (config : MqttConfig) :
    Except String (List Root) :=
  match config.caCert with
  | some caCert => addCerts library (library.certs caCert)
  | none => .ok library.serverRoots

/-- The client certificates and the first private key. -/
def clientAuthCert
    (library : TlsLibrary Cert Key Root)
    (config : MqttConfig) :
    Except String (List Cert × Key) :=
  match config.clientCert, config.clientKey with
  | some clientCertPem, some clientKeyPem =>
      match collect (library.certs clientCertPem) with
      | .error error => .error error
      | .ok certs =>
          match collect (library.pkcs8PrivateKeys clientKeyPem) with
          | .error error => .error error
          | .ok [] => .error "No private key found"
          | .ok (key :: _) =>
              match library.clientAuth certs key with
              | .error error => .error error
              | .ok () => .ok (certs, key)
  | _, _ =>
      .error "Mutual TLS requires both client certificate and private key"

def mutualTlsConfig
    (library : TlsLibrary Cert Key Root)
    (config : MqttConfig)
    (roots : List Root) :
    Except String (TlsConfig Cert Key Root) :=
  (clientAuthCert library config).map fun clientAuth =>
    { roots := roots, clientAuth := some clientAuth }

/-- The arm for `ssl` and `tls`, on the authentication mode. -/
def sslConfig
    (library : TlsLibrary Cert Key Root)
    (config : MqttConfig) :
    Except String (TlsConfig Cert Key Root) :=
  if config.authMode = "tls-server" then
    (rootCertStore library config).map fun roots =>
      { roots := roots, clientAuth := none }
  else if config.authMode = "mutual-tls" then
    (rootCertStore library config).bind (mutualTlsConfig library config)
  else .ok { roots := library.serverRoots, clientAuth := none }

/-- The arm for `wss`, which fills the root store first. -/
def wssConfig
    (library : TlsLibrary Cert Key Root)
    (config : MqttConfig) :
    Except String (TlsConfig Cert Key Root) :=
  (rootCertStore library config).bind fun roots =>
    if config.authMode = "mutual-tls" then
      mutualTlsConfig library config roots
    else .ok { roots := roots, clientAuth := none }

/-- The credentials if both parts are there. -/
def basicCredentials (config : MqttConfig) : Option (String × String) :=
  match config.username, config.password with
  | some username, some password => some (username, password)
  | _, _ => none

/-- The credentials of a WebSocket, with an empty password by default. -/
def wsCredentials (config : MqttConfig) : Option (String × String) :=
  config.username.map fun username => (username, config.password.getD "")

def wsUrl (scheme : String) (config : MqttConfig) : String :=
  scheme ++ "://" ++ config.host ++ ":" ++ toString config.port ++ "/mqtt"

/--
`setup_mqtt_client`: the options that the client and its event loop are made
with.
-/
def setupMqttClient
    (library : TlsLibrary Cert Key Root)
    (config : MqttConfig) :
    Except String (MqttOptions Cert Key Root) :=
  if config.transport = "ssl" ∨ config.transport = "tls" then
    (sslConfig library config).map fun tlsConfig =>
      newOptions config config.host (basicCredentials config)
        (.tls tlsConfig)
  else if config.transport = "ws" then
    .ok
      (newOptions config (wsUrl "ws" config) (wsCredentials config) .ws)
  else if config.transport = "wss" then
    (wssConfig library config).map fun tlsConfig =>
      newOptions config (wsUrl "wss" config) (wsCredentials config)
        (.wss tlsConfig)
  else
    .ok (newOptions config config.host (basicCredentials config) .tcp)

/-! ## The outcomes of a set-up -/

/-- The TLS configuration of a transport that has one. -/
def Transport.tls? :
    Transport Cert Key Root → Option (TlsConfig Cert Key Root)
  | .tcp => none
  | .tls config => some config
  | .ws => none
  | .wss config => some config

/-- The transports with TLS. -/
def UsesTls (config : MqttConfig) : Prop :=
  config.transport = "ssl" ∨ config.transport = "tls" ∨
    config.transport = "wss"

/-- The transports over a WebSocket. -/
def UsesWebSocket (config : MqttConfig) : Prop :=
  config.transport = "ws" ∨ config.transport = "wss"

/-- The authentication modes that verify the server. -/
def VerifiesServer (config : MqttConfig) : Prop :=
  config.authMode = "tls-server" ∨ config.authMode = "mutual-tls"

instance (config : MqttConfig) : Decidable (UsesTls config) :=
  inferInstanceAs (Decidable (_ ∨ _))

instance (config : MqttConfig) : Decidable (UsesWebSocket config) :=
  inferInstanceAs (Decidable (_ ∨ _))

instance (config : MqttConfig) : Decidable (VerifiesServer config) :=
  inferInstanceAs (Decidable (_ ∨ _))

/-- The credentials that the transport presents. -/
def presentedCredentials (config : MqttConfig) : Option (String × String) :=
  if UsesWebSocket config then wsCredentials config
  else basicCredentials config

/-- The TLS configuration of the arm that a transport with TLS takes. -/
def tlsConfigOf
    (library : TlsLibrary Cert Key Root)
    (config : MqttConfig) :
    Except String (TlsConfig Cert Key Root) :=
  if config.transport = "wss" then wssConfig library config
  else sslConfig library config

/-- A set-up on a transport with TLS, in terms of its TLS configuration. -/
theorem setupMqttClient_tls
    (library : TlsLibrary Cert Key Root)
    {config : MqttConfig}
    (usesTls : UsesTls config) :
    ∃ options : TlsConfig Cert Key Root → MqttOptions Cert Key Root,
      setupMqttClient library config =
          (tlsConfigOf library config).map options ∧
        ∀ tlsConfig,
          (options tlsConfig).transport.tls? = some tlsConfig ∧
            (options tlsConfig).credentials =
              presentedCredentials config := by
  unfold setupMqttClient tlsConfigOf presentedCredentials UsesWebSocket
  rcases usesTls with isSsl | isTls | isWss
  · simp only [isSsl, true_or, ↓reduceIte, String.reduceEq, or_self]
    exact ⟨_, rfl, fun _ => ⟨rfl, rfl⟩⟩
  · simp only [isTls, or_true, ↓reduceIte, String.reduceEq, or_self]
    exact ⟨_, rfl, fun _ => ⟨rfl, rfl⟩⟩
  · simp only [isWss, or_true, ↓reduceIte, String.reduceEq, or_self]
    exact ⟨_, rfl, fun _ => ⟨rfl, rfl⟩⟩

/-- A set-up on any other transport always gives a client. -/
theorem setupMqttClient_plain
    (library : TlsLibrary Cert Key Root)
    {config : MqttConfig}
    (isPlain : ¬ UsesTls config) :
    ∃ options,
      setupMqttClient library config = .ok options ∧
        options.transport.tls? = none ∧
          options.credentials = presentedCredentials config := by
  simp only [UsesTls, not_or] at isPlain
  obtain ⟨notSsl, notTls, notWss⟩ := isPlain
  unfold setupMqttClient presentedCredentials UsesWebSocket
  simp only [notSsl, notTls, notWss, or_false, ↓reduceIte]
  split
  · exact ⟨_, rfl, rfl, rfl⟩
  · exact ⟨_, rfl, rfl, rfl⟩

/-- Every client presents the credentials of its transport. -/
theorem credentials_of_setupMqttClient
    {library : TlsLibrary Cert Key Root}
    {config : MqttConfig}
    {options : MqttOptions Cert Key Root}
    (isSetUp : setupMqttClient library config = .ok options) :
    options.credentials = presentedCredentials config := by
  by_cases usesTls : UsesTls config
  · obtain ⟨optionsOf, outcome, facts⟩ :=
      setupMqttClient_tls library usesTls
    rw [outcome] at isSetUp
    cases made : tlsConfigOf library config with
    | error error =>
        rw [made] at isSetUp
        cases isSetUp
    | ok tlsConfig =>
        rw [made] at isSetUp
        cases isSetUp
        exact (facts tlsConfig).2
  · obtain ⟨plain, outcome, -, presented⟩ :=
      setupMqttClient_plain library usesTls
    cases outcome.symm.trans isSetUp
    exact presented

end RecomputerGateway.Rs485
