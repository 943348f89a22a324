import Mathlib.Data.List.Forall2
import RecomputerGateway.Rs485Client

namespace RecomputerGateway.Rs485

/-!
# No weaker security than configured

A successful set-up should give what the authentication mode asks for.  The
last arm of the transports is plain TCP for every mode, a CA text without a
certificate leaves the root store empty, and nothing reads the token.
-/

variable {Cert Key Root : Type}

/-- The roots are those of the certificates in a PEM text. -/
def AreRoots
    (library : TlsLibrary Cert Key Root)
    (pem : String)
    (roots : List Root) :
    Prop :=
  List.Forall₂
    (fun item root =>
      ∃ cert, item = .ok cert ∧ library.trustAnchor cert = .ok root)
    (library.certs pem) roots

/-- The configured client certificates with the configured key. -/
structure IsClientAuth
    (library : TlsLibrary Cert Key Root)
    (config : MqttConfig)
    (certs : List Cert)
    (key : Key) :
    Prop where
  certificates :
    ∃ pem,
      config.clientCert = some pem ∧ library.certs pem = certs.map .ok
  privateKey :
    ∃ pem others,
      config.clientKey = some pem ∧
        library.pkcs8PrivateKeys pem = (key :: others).map .ok
  accepted : library.clientAuth certs key = .ok ()

/-- The user name and the password that the transport presents. -/
def presentedTexts (config : MqttConfig) : List String :=
  match presentedCredentials config with
  | some (username, password) => [username, password]
  | none => []

/--
What the configuration asks of a client with this TLS configuration, if it has
one, and these credentials.
-/
structure AsConfigured
    (library : TlsLibrary Cert Key Root)
    (config : MqttConfig)
    (tls? : Option (TlsConfig Cert Key Root))
    (credentials : Option (String × String)) :
    Prop where
  mutualTls :
    config.authMode = "mutual-tls" →
      ∃ tlsConfig certs key,
        tls? = some tlsConfig ∧
          tlsConfig.clientAuth = some (certs, key) ∧
            IsClientAuth library config certs key
  tlsServer :
    config.authMode = "tls-server" → tls?.isSome
  roots :
    ∀ tlsConfig,
      tls? = some tlsConfig →
        tlsConfig.roots ≠ [] ∧
          ∀ pem,
            config.caCert = some pem →
              VerifiesServer config →
                AreRoots library pem tlsConfig.roots
  token :
    config.authMode = "token" →
      ∃ token username password,
        config.token = some token ∧
          credentials = some (username, password) ∧
            (token = username ∨ token = password)

/-- Every client that is made is as configured. -/
def KeepsSecurity
    (library : TlsLibrary Cert Key Root)
    (config : MqttConfig) :
    Prop :=
  ∀ options,
    setupMqttClient library config = .ok options →
      AsConfigured library config options.transport.tls? options.credentials

/-- The text that the root store is filled from, if it is not the system's. -/
def caText (config : MqttConfig) : Option String :=
  if config.transport = "wss" ∨ VerifiesServer config then config.caCert
  else none

/-- The settings for which nothing is lost. -/
structure Enforced
    (library : TlsLibrary Cert Key Root)
    (config : MqttConfig) :
    Prop where
  /-- A mode that verifies the server has a transport with TLS. -/
  transport : VerifiesServer config → UsesTls config
  /-- The CA text has a certificate, or the client has no identity anyway. -/
  roots :
    UsesTls config →
      ∀ pem,
        caText config = some pem →
          library.certs pem = [] →
            config.authMode = "mutual-tls" ∧
              ¬ ∃ certs key, IsClientAuth library config certs key
  /-- The token is a credential, or the CA certificates cannot be used. -/
  token :
    config.authMode = "token" →
      (∃ token, config.token = some token ∧ token ∈ presentedTexts config) ∨
        config.transport = "wss" ∧
          ∃ pem,
            config.caCert = some pem ∧ ¬ ∃ roots, AreRoots library pem roots

/-! ## What is made of the PEM texts -/

theorem collect_eq_ok_iff
    {α : Type}
    {items : List (Except String α)}
    {collected : List α} :
    collect items = .ok collected ↔ items = collected.map .ok := by
  induction items generalizing collected with
  | nil =>
      cases collected <;> simp [collect]
  | cons item rest inductionHypothesis =>
      cases item with
      | error error =>
          cases collected <;> simp [collect]
      | ok first =>
          simp only [collect]
          constructor
          · intro isCollected
            cases others : collect rest with
            | error error =>
                rw [others] at isCollected
                cases isCollected
            | ok items =>
                rw [others] at isCollected
                cases isCollected
                rw [inductionHypothesis.mp others, List.map_cons]
          · intro isMapped
            cases collected with
            | nil =>
                cases isMapped
            | cons head tail =>
                simp only [List.map_cons, List.cons.injEq,
                  Except.ok.injEq] at isMapped
                obtain ⟨rfl, restMapped⟩ := isMapped
                rw [inductionHypothesis.mpr restMapped]

/-- The loop adds a root for each certificate, or fails. -/
theorem addCerts_eq_ok_iff
    {library : TlsLibrary Cert Key Root}
    {items : List (Except String Cert)}
    {roots : List Root} :
    addCerts library items = .ok roots ↔
      List.Forall₂
        (fun item root =>
          ∃ cert, item = .ok cert ∧ library.trustAnchor cert = .ok root)
        items roots := by
  constructor
  · intro added
    induction items generalizing roots with
    | nil =>
        cases added
        exact .nil
    | cons item rest inductionHypothesis =>
        cases item with
        | error error =>
            cases added
        | ok cert =>
            simp only [addCerts] at added
            split at added
            · cases added
            next root isAnchor =>
              split at added
              · cases added
              next others addedOthers =>
                cases added
                exact
                  .cons ⟨cert, rfl, isAnchor⟩
                    (inductionHypothesis addedOthers)
  · intro areRoots
    induction areRoots with
    | nil =>
        rfl
    | cons isRoot others inductionHypothesis =>
        obtain ⟨cert, rfl, isAnchor⟩ := isRoot
        simp only [addCerts, isAnchor, inductionHypothesis]

/-- A text without a certificate leaves the root store empty. -/
theorem areRoots_nil_iff
    {library : TlsLibrary Cert Key Root}
    {pem : String} :
    AreRoots library pem [] ↔ library.certs pem = [] :=
  List.forall₂_nil_right_iff

/-- The client authentication is the configured one, or the call fails. -/
theorem clientAuthCert_eq_ok_iff
    {library : TlsLibrary Cert Key Root}
    {config : MqttConfig}
    {certs : List Cert}
    {key : Key} :
    clientAuthCert library config = .ok (certs, key) ↔
      IsClientAuth library config certs key := by
  constructor
  · intro made
    unfold clientAuthCert at made
    split at made
    next certPem keyPem isCert isKey =>
      split at made
      · cases made
      next chain isChain =>
        split at made
        · cases made
        · cases made
        next first others isKeys =>
          split at made
          · cases made
          next accepted =>
            cases made
            exact
              { certificates := ⟨certPem, isCert, collect_eq_ok_iff.mp isChain⟩
                privateKey :=
                  ⟨keyPem, others, isKey, collect_eq_ok_iff.mp isKeys⟩
                accepted := accepted }
    · cases made
  · intro isClientAuth
    obtain ⟨certPem, isCert, isChain⟩ := isClientAuth.certificates
    obtain ⟨keyPem, others, isKey, isKeys⟩ := isClientAuth.privateKey
    unfold clientAuthCert
    simp only [isCert, isKey, collect_eq_ok_iff.mpr isChain,
      collect_eq_ok_iff.mpr isKeys, isClientAuth.accepted]

/-- What the arms for TLS make of the configuration. -/
structure Makes
    (library : TlsLibrary Cert Key Root)
    (config : MqttConfig)
    (tlsConfig : TlsConfig Cert Key Root) :
    Prop where
  roots :
    match caText config with
    | some pem => AreRoots library pem tlsConfig.roots
    | none => tlsConfig.roots = library.serverRoots
  clientAuth :
    if config.authMode = "mutual-tls" then
      ∃ certs key,
        tlsConfig.clientAuth = some (certs, key) ∧
          IsClientAuth library config certs key
    else tlsConfig.clientAuth = none

/-- The root store that both arms fill from a text. -/
def rootsFrom
    (library : TlsLibrary Cert Key Root) :
    Option String → Except String (List Root)
  | some pem => addCerts library (library.certs pem)
  | none => .ok library.serverRoots

theorem rootsFrom_eq_ok_iff
    {library : TlsLibrary Cert Key Root}
    {text : Option String}
    {roots : List Root} :
    rootsFrom library text = .ok roots ↔
      match text with
      | some pem => AreRoots library pem roots
      | none => roots = library.serverRoots := by
  cases text with
  | none =>
      simp [rootsFrom, eq_comm]
  | some pem =>
      exact addCerts_eq_ok_iff

/-- Both arms in one: a root store from a text, then the client's part. -/
theorem tlsConfigOf_eq
    (library : TlsLibrary Cert Key Root)
    (config : MqttConfig) :
    tlsConfigOf library config =
      (rootsFrom library (caText config)).bind fun roots =>
        if config.authMode = "mutual-tls" then
          mutualTlsConfig library config roots
        else .ok { roots := roots, clientAuth := none } := by
  unfold tlsConfigOf caText VerifiesServer
  by_cases isWss : config.transport = "wss"
  · simp only [isWss, ↓reduceIte, true_or]
    unfold wssConfig rootCertStore
    cases config.caCert <;> rfl
  · simp only [isWss, ↓reduceIte, false_or]
    unfold sslConfig rootCertStore
    by_cases isServer : config.authMode = "tls-server"
    · simp only [isServer, ↓reduceIte, true_or, String.reduceEq]
      cases config.caCert with
      | none =>
          rfl
      | some pem =>
          simp only [rootsFrom]
          cases addCerts library (library.certs pem) <;> rfl
    · by_cases isMutual : config.authMode = "mutual-tls"
      · simp only [isMutual, ↓reduceIte, or_true, String.reduceEq]
        cases config.caCert <;> rfl
      · simp only [isServer, isMutual, ↓reduceIte, or_self]
        rfl

/-- The arms make what the configuration says, or fail. -/
theorem tlsConfigOf_eq_ok_iff
    {library : TlsLibrary Cert Key Root}
    {config : MqttConfig}
    {tlsConfig : TlsConfig Cert Key Root} :
    tlsConfigOf library config = .ok tlsConfig ↔
      Makes library config tlsConfig := by
  rw [tlsConfigOf_eq]
  constructor
  · intro made
    cases filled : rootsFrom library (caText config) with
    | error error =>
        rw [filled] at made
        cases made
    | ok roots =>
        have areRoots := rootsFrom_eq_ok_iff.mp filled
        rw [filled] at made
        simp only [Except.bind] at made
        by_cases isMutual : config.authMode = "mutual-tls"
        · simp only [isMutual, ↓reduceIte, mutualTlsConfig] at made
          cases presents : clientAuthCert library config with
          | error error =>
              rw [presents] at made
              cases made
          | ok clientAuth =>
              rw [presents] at made
              cases made
              refine ⟨areRoots, ?_⟩
              simp only [isMutual, ↓reduceIte]
              exact ⟨_, _, rfl, clientAuthCert_eq_ok_iff.mp presents⟩
        · simp only [isMutual, ↓reduceIte, Except.ok.injEq] at made
          subst tlsConfig
          exact ⟨areRoots, by simp only [isMutual, ↓reduceIte]⟩
  · intro makes
    have clientAuth := makes.clientAuth
    rw [rootsFrom_eq_ok_iff.mpr makes.roots]
    simp only [Except.bind]
    by_cases isMutual : config.authMode = "mutual-tls"
    · simp only [isMutual, ↓reduceIte] at clientAuth ⊢
      obtain ⟨certs, key, isPair, isClientAuth⟩ := clientAuth
      rw [mutualTlsConfig, clientAuthCert_eq_ok_iff.mpr isClientAuth,
        Except.map, ← isPair]
    · simp only [isMutual, ↓reduceIte] at clientAuth ⊢
      rw [← clientAuth]

/-! ## When the settings are enforced -/

/-- The token is presented if it is one of the credentials. -/
theorem mem_presentedTexts_iff
    {config : MqttConfig}
    {text : String} :
    text ∈ presentedTexts config ↔
      ∃ username password,
        presentedCredentials config = some (username, password) ∧
          (text = username ∨ text = password) := by
  unfold presentedTexts
  cases presentedCredentials config with
  | none =>
      simp
  | some pair =>
      simp [Prod.ext_iff]

/-- Without TLS there is one client, whatever the authentication mode. -/
theorem keepsSecurity_iff_plain
    (library : TlsLibrary Cert Key Root)
    {config : MqttConfig}
    (isPlain : ¬ UsesTls config) :
    KeepsSecurity library config ↔
      AsConfigured library config none (presentedCredentials config) := by
  obtain ⟨options, isSetUp, noTls, presented⟩ :=
    setupMqttClient_plain library isPlain
  rw [← noTls, ← presented]
  constructor
  · intro keeps
    exact keeps options isSetUp
  · intro asConfigured other otherSetUp
    cases isSetUp.symm.trans otherSetUp
    exact asConfigured

/-- With TLS, the clients are the ones that the arms make. -/
theorem keepsSecurity_iff_makes
    (library : TlsLibrary Cert Key Root)
    {config : MqttConfig}
    (usesTls : UsesTls config) :
    KeepsSecurity library config ↔
      ∀ tlsConfig,
        Makes library config tlsConfig →
          AsConfigured library config (some tlsConfig)
            (presentedCredentials config) := by
  obtain ⟨optionsOf, outcome, facts⟩ := setupMqttClient_tls library usesTls
  unfold KeepsSecurity
  rw [outcome]
  constructor
  · intro keeps tlsConfig makes
    have made := tlsConfigOf_eq_ok_iff.mpr makes
    have asConfigured := keeps (optionsOf tlsConfig) (by rw [made, Except.map])
    rwa [(facts tlsConfig).1, (facts tlsConfig).2] at asConfigured
  · intro asConfigured options isSetUp
    cases made : tlsConfigOf library config with
    | error error =>
        rw [made] at isSetUp
        cases isSetUp
    | ok tlsConfig =>
        rw [made] at isSetUp
        cases isSetUp
        rw [(facts tlsConfig).1, (facts tlsConfig).2]
        exact asConfigured tlsConfig (tlsConfigOf_eq_ok_iff.mp made)

/-- A transport without TLS takes no notice of the authentication mode. -/
theorem asConfigured_none_iff
    (library : TlsLibrary Cert Key Root)
    {config : MqttConfig}
    (isPlain : ¬ UsesTls config) :
    AsConfigured library config none (presentedCredentials config) ↔
      Enforced library config := by
  constructor
  · intro asConfigured
    refine ⟨?_, fun usesTls => absurd usesTls isPlain, ?_⟩
    · rintro (isServer | isMutual)
      · cases asConfigured.tlsServer isServer
      · obtain ⟨tlsConfig, -, -, hasTls, -⟩ :=
          asConfigured.mutualTls isMutual
        cases hasTls
    · intro isToken
      obtain ⟨token, username, password, isSet, isPart⟩ :=
        asConfigured.token isToken
      exact
        .inl
          ⟨token, isSet,
            mem_presentedTexts_iff.mpr ⟨username, password, isPart⟩⟩
  · intro enforced
    refine ⟨?_, ?_, fun _ hasTls => (by cases hasTls), ?_⟩
    · intro isMutual
      exact absurd (enforced.transport (.inr isMutual)) isPlain
    · intro isServer
      exact absurd (enforced.transport (.inl isServer)) isPlain
    · intro isToken
      rcases enforced.token isToken with
        ⟨token, isSet, isPart⟩ | ⟨isWss, -⟩
      · obtain ⟨username, password, presented⟩ :=
          mem_presentedTexts_iff.mp isPart
        exact ⟨token, username, password, isSet, presented⟩
      · exact absurd (.inr (.inr isWss)) isPlain

/-- A configuration that the arms can make, for given roots. -/
theorem exists_makes
    {library : TlsLibrary Cert Key Root}
    {config : MqttConfig}
    {roots : List Root}
    (fromText :
      match caText config with
      | some pem => AreRoots library pem roots
      | none => roots = library.serverRoots)
    (hasIdentity :
      config.authMode = "mutual-tls" →
        ∃ certs key, IsClientAuth library config certs key) :
    ∃ tlsConfig,
      Makes library config tlsConfig ∧ tlsConfig.roots = roots := by
  by_cases isMutual : config.authMode = "mutual-tls"
  · obtain ⟨certs, key, isClientAuth⟩ := hasIdentity isMutual
    refine
      ⟨{ roots := roots, clientAuth := some (certs, key) },
        ⟨fromText, ?_⟩, rfl⟩
    simp only [isMutual, ↓reduceIte]
    exact ⟨certs, key, rfl, isClientAuth⟩
  · refine
      ⟨{ roots := roots, clientAuth := none }, ⟨fromText, ?_⟩, rfl⟩
    simp only [isMutual, ↓reduceIte]

/-- What the arms make is as configured if the settings are enforced. -/
theorem Enforced.asConfigured
    {library : TlsLibrary Cert Key Root}
    {config : MqttConfig}
    {tlsConfig : TlsConfig Cert Key Root}
    (enforced : Enforced library config)
    (usesTls : UsesTls config)
    (makes : Makes library config tlsConfig) :
    AsConfigured library config (some tlsConfig)
      (presentedCredentials config) := by
  have clientAuth := makes.clientAuth
  have fromText := makes.roots
  refine ⟨?_, fun _ => rfl, ?_, ?_⟩
  · intro isMutual
    simp only [isMutual, ↓reduceIte] at clientAuth
    obtain ⟨certs, key, isPair, isClientAuth⟩ := clientAuth
    exact ⟨tlsConfig, certs, key, rfl, isPair, isClientAuth⟩
  · rintro _ ⟨⟩
    constructor
    · intro isEmpty
      cases isText : caText config with
      | none =>
          rw [isText, isEmpty] at fromText
          exact library.serverRoots_ne_nil fromText.symm
      | some pem =>
          rw [isText, isEmpty] at fromText
          obtain ⟨isMutual, noIdentity⟩ :=
            enforced.roots usesTls pem isText (areRoots_nil_iff.mp fromText)
          simp only [isMutual, ↓reduceIte] at clientAuth
          obtain ⟨certs, key, -, isClientAuth⟩ := clientAuth
          exact noIdentity ⟨certs, key, isClientAuth⟩
    · intro pem isSet verifies
      have isText : caText config = some pem := by
        simp only [caText, verifies, or_true, ↓reduceIte, isSet]
      rwa [isText] at fromText
  · intro isToken
    rcases enforced.token isToken with
      ⟨token, isSet, isPart⟩ | ⟨isWss, pem, isSet, unusable⟩
    · obtain ⟨username, password, presented⟩ :=
        mem_presentedTexts_iff.mp isPart
      exact ⟨token, username, password, isSet, presented⟩
    · have isText : caText config = some pem := by
        simp only [caText, isWss, true_or, ↓reduceIte, isSet]
      rw [isText] at fromText
      exact absurd ⟨_, fromText⟩ unusable

/-- The settings are enforced if all that the arms make is as configured. -/
theorem enforced_of_makes
    {library : TlsLibrary Cert Key Root}
    {config : MqttConfig}
    (usesTls : UsesTls config)
    (asConfigured :
      ∀ tlsConfig,
        Makes library config tlsConfig →
          AsConfigured library config (some tlsConfig)
            (presentedCredentials config)) :
    Enforced library config := by
  refine ⟨fun _ => usesTls, ?_, ?_⟩
  · intro _ pem isText isEmpty
    -- An empty root store that is used would not be as configured.
    by_contra notLost
    have noRoots :
        match caText config with
        | some pem => AreRoots library pem []
        | none => [] = library.serverRoots := by
      rw [isText]
      exact areRoots_nil_iff.mpr isEmpty
    obtain ⟨tlsConfig, makes, hasRoots⟩ :=
      exists_makes noRoots fun isMutual =>
        not_not.mp fun noIdentity => notLost ⟨isMutual, noIdentity⟩
    exact ((asConfigured tlsConfig makes).roots tlsConfig rfl).1 hasRoots
  · intro isToken
    have notMutual : "token" ≠ "mutual-tls" := by
      decide
    have notServer : "token" ≠ "tls-server" := by
      decide
    have presented :
        ∀ roots,
          (match caText config with
            | some pem => AreRoots library pem roots
            | none => roots = library.serverRoots) →
            ∃ token, config.token = some token ∧
              token ∈ presentedTexts config := by
      intro roots fromText
      obtain ⟨tlsConfig, makes, -⟩ :=
        exists_makes fromText fun isMutual =>
          absurd (isToken.symm.trans isMutual) notMutual
      obtain ⟨token, username, password, isSet, isPart⟩ :=
        (asConfigured tlsConfig makes).token isToken
      exact
        ⟨token, isSet,
          mem_presentedTexts_iff.mpr ⟨username, password, isPart⟩⟩
    cases isText : caText config with
    | none =>
        exact .inl (presented library.serverRoots (by rw [isText]))
    | some pem =>
        by_cases usable : ∃ roots, AreRoots library pem roots
        · obtain ⟨roots, areRoots⟩ := usable
          exact .inl (presented roots (by rwa [isText]))
        · refine .inr ?_
          simp only [caText, VerifiesServer, isToken, notServer, notMutual,
            or_false, ite_eq_iff] at isText
          rcases isText with ⟨isWss, isSet⟩ | ⟨-, isNone⟩
          · exact ⟨isWss, pem, isSet, usable⟩
          · cases isNone

/-- Server verification with an uploaded CA certificate. -/
def uploadedCaUci : Uci := fun _ option =>
  if option = "transport" then some "ssl\n"
  else if option = "auth_mode" then some "tls-server\n"
  else if option = "ca_cert" then some "/etc/luci-uploads/ca.pem\n"
  else none

end RecomputerGateway.Rs485
