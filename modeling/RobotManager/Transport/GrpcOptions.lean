import RobotManager.Adapters.EfortDriver
import RobotManager.Config.FailClosed

/-!
# Options of the gRPC server

The options of `grpc_options.h`, their loader in `grpc_config_loader.cc`, from the flattened
document on, and the checks with which `RunGrpcServer` of `grpc_server.cc` begins.  Both files
decide by prefixes whether an address is local.  They agree with each other, and they take every
host name that begins like a loopback address for one.
-/

namespace RobotManager

open Checked

structure GrpcServerOptions where
  listenAddress : String := ""
  allowInsecureLoopback : Bool := false
  trustedClientCaFile : String := ""
  serverCertificateChainFile : String := ""
  serverPrivateKeyFile : String := ""
  allowedClientCommonNames : List String := []
deriving DecidableEq

/-- One of the settings of mutual TLS is missing. -/
def GrpcServerOptions.lacksCredentials (options : GrpcServerOptions) : Bool :=
  options.trustedClientCaFile == "" || options.serverCertificateChainFile == "" ||
    options.serverPrivateKeyFile == "" || options.allowedClientCommonNames.isEmpty

/-! ### Loading -/

namespace GrpcConfigLoader

def configError (message : String) : Status :=
  ⟨.invalidArgument, "gRPC configuration: " ++ message, 0⟩

def isLoopbackListenAddress (address : String) : Bool :=
  "127.".toList.isPrefixOf address.toList || "localhost:".toList.isPrefixOf address.toList ||
    "[::1]:".toList.isPrefixOf address.toList || "unix:".toList.isPrefixOf address.toList

def required (document : ConfigDocument) (key : String) : StatusOr String :=
  match document.scalars.lookup key with
  | none => .error (configError ("missing required setting '" ++ key ++ "'"))
  | some value =>
      if value = "" then .error (configError ("missing required setting '" ++ key ++ "'"))
      else .ok value

/-- The setting, or what was there before. -/
def copyOptional (document : ConfigDocument) (key destination : String) : String :=
  (document.scalars.lookup key).getD destination

def knownScalars : List String := [
  "transport.grpc.listen",
  "transport.grpc.allow_insecure_loopback",
  "transport.grpc.client_ca_file",
  "transport.grpc.server_certificate_chain_file",
  "transport.grpc.server_private_key_file"]

def commonNamesKey : String := "transport.grpc.allowed_client_common_names"

/-- The first of the keys that has the prefix and is not known. -/
def firstUnknown (start : String) (known keys : List String) : Option String :=
  (keys.filter fun key =>
    start.toList.isPrefixOf key.toList && !known.contains key).min?

def checkKnownKeys (document : ConfigDocument) : Status :=
  match firstUnknown "transport.grpc." knownScalars document.scalars.keys with
  | some key => configError ("unknown setting '" ++ key ++ "'")
  | none =>
      match firstUnknown "transport.grpc." [commonNamesKey] document.lists.keys with
      | some key => configError ("unknown list setting '" ++ key ++ "'")
      | none =>
          match firstUnknown "transport.grpc" ["transport.grpc"] document.mappings with
          | some key => configError ("unknown section '" ++ key ++ "'")
          | none => Status.Ok

/-- The options that the document's settings describe. -/
def describedOptions (document : ConfigDocument) (listen insecure : String) :
    GrpcServerOptions where
  listenAddress := listen
  allowInsecureLoopback := insecure == "true"
  trustedClientCaFile := copyOptional document "transport.grpc.client_ca_file" ""
  serverCertificateChainFile :=
    copyOptional document "transport.grpc.server_certificate_chain_file" ""
  serverPrivateKeyFile := copyOptional document "transport.grpc.server_private_key_file" ""
  allowedClientCommonNames := (document.lists.lookup commonNamesKey).getD []

/-- `LoadGrpcServerOptions`, from the document that `LoadConfigDocument` has read. -/
def loadGrpcServerOptions (document : ConfigDocument) : StatusOr GrpcServerOptions := do
  reject ((checkKnownKeys document).ok = false) (checkKnownKeys document)
  let listen ← required document "transport.grpc.listen"
  let insecure ← required document "transport.grpc.allow_insecure_loopback"
  reject (insecure ≠ "true" ∧ insecure ≠ "false")
    (configError "allow_insecure_loopback must be true or false")
  let options := describedOptions document listen insecure
  if options.allowInsecureLoopback then
    reject (isLoopbackListenAddress options.listenAddress = false)
      (configError "insecure transport is permitted only on loopback")
  else
    reject options.lacksCredentials
      (configError "mTLS requires CA, certificate, private key, and allowed client names")
  .ok options

end GrpcConfigLoader

/-! ### Starting -/

namespace GrpcServer

def isLoopbackListenAddress (address : String) : Bool :=
  "127.".toList.isPrefixOf address.toList || "localhost:".toList.isPrefixOf address.toList ||
    "[::1]:".toList.isPrefixOf address.toList || "unix:".toList.isPrefixOf address.toList

/-- The checks at the start of `RunGrpcServer`, which is given a service and a stop flag or null
pointers in their place. -/
def checkOptions (options : GrpcServerOptions) (hasService hasStopFlag : Bool) : Status :=
  if options.listenAddress = "" ∨ hasService = false ∨ hasStopFlag = false then
    ⟨.invalidArgument, "gRPC listen address and executor are required", 0⟩
  else if options.allowInsecureLoopback = true ∧
      isLoopbackListenAddress options.listenAddress = false then
    ⟨.invalidArgument, "insecure gRPC is permitted only on a loopback address", 0⟩
  else if options.allowInsecureLoopback = false ∧ options.lacksCredentials = true then
    ⟨.invalidArgument, "gRPC mTLS requires credentials and allowed identities", 0⟩
  else Status.Ok

end GrpcServer

/-! ### Local addresses -/

/-- The part of a TCP address before the port: a literal in brackets or the text before the first
colon. -/
def hostPart (address : List Char) : List Char :=
  if "[".toList.isPrefixOf address then address.takeWhile (· ≠ ']') ++ [']']
  else address.takeWhile (· ≠ ':')

/-- An IPv4 literal in `127.0.0.0/8`. -/
def isLoopbackLiteral (host : List Char) : Bool :=
  isIpv4Address host && "127.".toList.isPrefixOf host

/-- The address is a Unix socket or a TCP address whose host is this machine. -/
def IsLocalAddress (address : String) : Prop :=
  "unix:".toList.isPrefixOf address.toList = true ∨
    hostPart address.toList = "localhost".toList ∨ hostPart address.toList = "[::1]".toList ∨
    isLoopbackLiteral (hostPart address.toList) = true

instance (address : String) : Decidable (IsLocalAddress address) :=
  inferInstanceAs (Decidable (_ ∨ _ ∨ _ ∨ _))

/-- Clients are authenticated, or the address is local. -/
def GrpcServerOptions.KeepsPlaintextLocal (options : GrpcServerOptions) : Prop :=
  (options.allowInsecureLoopback = false ∧ options.trustedClientCaFile ≠ "" ∧
      options.serverCertificateChainFile ≠ "" ∧ options.serverPrivateKeyFile ≠ "" ∧
      options.allowedClientCommonNames ≠ []) ∨
    IsLocalAddress options.listenAddress

instance (options : GrpcServerOptions) : Decidable options.KeepsPlaintextLocal :=
  inferInstanceAs (Decidable (_ ∨ _))

theorem GrpcServerOptions.lacksCredentials_eq_false_iff {options : GrpcServerOptions} :
    options.lacksCredentials = false ↔
      options.trustedClientCaFile ≠ "" ∧ options.serverCertificateChainFile ≠ "" ∧
        options.serverPrivateKeyFile ≠ "" ∧ options.allowedClientCommonNames ≠ [] := by
  simp [lacksCredentials, and_assoc]

/-- Of the four prefixes only the numeric one leaves open what the host is. -/
theorem isLocalAddress_iff {address : String}
    (accepted : GrpcConfigLoader.isLoopbackListenAddress address = true) :
    IsLocalAddress address ↔ ("127.".toList.isPrefixOf address.toList = true →
      isIpv4Address (address.toList.takeWhile (· ≠ ':')) = true) := by
  simp only [GrpcConfigLoader.isLoopbackListenAddress, Bool.or_eq_true,
    List.isPrefixOf_iff_prefix] at accepted
  unfold IsLocalAddress
  rcases accepted with ((⟨rest, split⟩ | ⟨rest, split⟩) | ⟨rest, split⟩) | ⟨rest, split⟩ <;>
    rw [← split] <;> simp [hostPart, isLoopbackLiteral]

theorem GrpcConfigLoader.required_eq_ok_iff {document : ConfigDocument} {key value : String} :
    required document key = .ok value ↔
      document.scalars.lookup key = some value ∧ value ≠ "" :=
  given_eq_ok_iff

/-- A document from which options have been loaded gives the address and the choice of the
transport, and passes the check of the one that it has chosen. -/
theorem GrpcConfigLoader.of_loadGrpcServerOptions {document : ConfigDocument}
    {options : GrpcServerOptions} (loaded : loadGrpcServerOptions document = .ok options) :
    document.scalars.lookup "transport.grpc.listen" = some options.listenAddress ∧
      options.listenAddress ≠ "" ∧
      ((options.allowInsecureLoopback = true ∧
          document.scalars.lookup "transport.grpc.allow_insecure_loopback" = some "true" ∧
          isLoopbackListenAddress options.listenAddress = true) ∨
        (options.allowInsecureLoopback = false ∧
          document.scalars.lookup "transport.grpc.allow_insecure_loopback" = some "false" ∧
          options.lacksCredentials = false)) := by
  unfold loadGrpcServerOptions at loaded
  simp only [bind_eq_ok_iff, reject_eq_ok_iff, exists_const, required_eq_ok_iff] at loaded
  rcases loaded with ⟨_, listen, ⟨address, given⟩, insecure, ⟨choice, _⟩, known, made⟩
  by_cases plaintext : insecure = "true"
  · subst plaintext
    have chosen : (describedOptions document listen "true").allowInsecureLoopback = true := rfl
    rw [if_pos chosen] at made
    rcases bind_eq_ok_iff.mp made with ⟨_, checked, made⟩
    rw [reject_eq_ok_iff, Bool.not_eq_false] at checked
    cases made
    exact ⟨address, given, Or.inl ⟨rfl, choice, checked⟩⟩
  · obtain rfl : insecure = "false" := by
      by_contra other
      exact known ⟨plaintext, other⟩
    have chosen : (describedOptions document listen "false").allowInsecureLoopback = false := rfl
    rw [chosen, if_neg Bool.false_ne_true] at made
    rcases bind_eq_ok_iff.mp made with ⟨_, checked, made⟩
    rw [reject_eq_ok_iff, Bool.not_eq_true] at checked
    cases made
    exact ⟨address, given, Or.inr ⟨rfl, choice, checked⟩⟩

/-- The server starts with every options value that loads. -/
theorem GrpcServer.checkOptions_of_loaded {document : ConfigDocument} {options : GrpcServerOptions}
    (loaded : GrpcConfigLoader.loadGrpcServerOptions document = .ok options) :
    checkOptions options true true = Status.Ok := by
  rcases GrpcConfigLoader.of_loadGrpcServerOptions loaded with ⟨_, given, chosen⟩
  have sameTest : isLoopbackListenAddress = GrpcConfigLoader.isLoopbackListenAddress := rfl
  rcases chosen with ⟨insecure, _, local'⟩ | ⟨secure, _, complete⟩
  · simp [checkOptions, given, insecure, sameTest, local']
  · simp [checkOptions, given, secure, complete]

/-- Options that load keep plaintext on the machine exactly if an address that begins like an IPv4
loopback address is one, and the server starts with them in any case. -/
theorem plaintext_stays_local_iff {document : ConfigDocument} {options : GrpcServerOptions}
    (loaded : GrpcConfigLoader.loadGrpcServerOptions document = .ok options) :
    GrpcServer.checkOptions options true true = Status.Ok ∧
      (options.KeepsPlaintextLocal ↔
        ∀ address, document.scalars.lookup "transport.grpc.listen" = some address →
          document.scalars.lookup "transport.grpc.allow_insecure_loopback" = some "true" →
          "127.".toList.isPrefixOf address.toList = true →
          isIpv4Address (address.toList.takeWhile (· ≠ ':')) = true) := by
  refine ⟨GrpcServer.checkOptions_of_loaded loaded, ?_⟩
  rcases GrpcConfigLoader.of_loadGrpcServerOptions loaded with ⟨address, _, chosen⟩
  rcases chosen with ⟨insecure, choice, accepted⟩ | ⟨secure, choice, complete⟩
  · simp only [GrpcServerOptions.KeepsPlaintextLocal, insecure, Bool.true_eq_false, false_and,
      false_or, isLocalAddress_iff accepted, address, choice, Option.some.injEq, forall_eq',
      true_imp_iff]
  · refine iff_of_true ?_ fun _ _ plaintext => ?_
    · exact Or.inl ⟨secure, GrpcServerOptions.lacksCredentials_eq_false_iff.mp complete⟩
    · rw [choice] at plaintext
      simp at plaintext

/-- The site's document listens on the loopback interface. -/
theorem er150Document_keepsPlaintextLocal : ∃ options,
    GrpcConfigLoader.loadGrpcServerOptions er150Document = .ok options ∧
      GrpcServer.checkOptions options true true = Status.Ok ∧ options.KeepsPlaintextLocal := by
  have loads : (GrpcConfigLoader.loadGrpcServerOptions er150Document).toOption.any
      (fun _ => true) = true := by
    decide +kernel
  rcases exists_of_any loads with ⟨options, loaded, _⟩
  rcases plaintext_stays_local_iff loaded with ⟨starts, exact⟩
  refine ⟨options, loaded, starts, exact.mpr fun address given _ _ => ?_⟩
  have listens : er150Document.scalars.lookup "transport.grpc.listen" = some "127.0.0.1:50051" := by
    decide +kernel
  rw [listens] at given
  cases given
  decide +kernel

/-- A host name that begins like a loopback address is accepted for plaintext. -/
theorem loopback_lookalike_accepted : ∃ options,
    GrpcConfigLoader.loadGrpcServerOptions
      (er150Document.withScalar "transport.grpc.listen" "127.example.com:50051") = .ok options ∧
    GrpcServer.checkOptions options true true = Status.Ok ∧ ¬options.KeepsPlaintextLocal := by
  have loads : (GrpcConfigLoader.loadGrpcServerOptions
      (er150Document.withScalar "transport.grpc.listen"
        "127.example.com:50051")).toOption.any
      (fun options => GrpcServer.checkOptions options true true = Status.Ok ∧
        ¬options.KeepsPlaintextLocal) = true := by
    decide +kernel
  rcases exists_of_any loads with ⟨options, loaded, checked⟩
  exact ⟨options, loaded, of_decide_eq_true checked⟩

end RobotManager
