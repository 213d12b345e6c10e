import Fleet.Gate
import Fleet.Schema.Yaml
import Fleet.Text.Case

/-!
# Configuration

How a client reaches the service, and what it is allowed.

* `Config.ofYaml`: the configuration of a file.
* `Config.ofSettings`: the configuration of environment settings.
* `Config.validate`: what every configuration must satisfy.
-/

namespace Fleet

open Text

/-- How the connection is secured. -/
structure Tls where
  insecureSkipVerify : Bool
  caFile : Option String
  serverName : Option String
  deriving DecidableEq, Repr

/-- What is logged. -/
structure Logging where
  level : String
  json : Bool
  deriving DecidableEq, Repr

/-- The configuration of a client. -/
structure Config where
  endpoint : String
  mode : Mode
  timeout : Span
  defaultNamespace : String
  tls : Tls
  logging : Logging
  deriving DecidableEq, Repr

namespace Config

/-- The timeout of a client that sets none. -/
def defaultTimeout : Span := .ofSeconds 30

/-- The longest timeout: one day. -/
def maxTimeout : Span := .ofSeconds 86400

/-- The configuration that gives nothing but an endpoint. -/
def ofEndpoint (endpoint : String) : Config :=
  ⟨endpoint, .readWrite, defaultTimeout, "default", ⟨false, none, none⟩, ⟨"info", false⟩⟩

/-- The shape of a configuration. -/
def schema : Schema :=
  .record (.cons "endpoint" [] true (.text "") (.field "mode" Mode.schema
    (.field "timeout" (.span defaultTimeout) (.field "defaultNamespace" (.text "default")
    (.field "tls" (.record (.field "insecureSkipVerify" .flag
      (.field "caFile" (.optional (.text "")) (.field "serverName" (.optional (.text "")) .nil))))
    (.field "log" (.record (.field "level" (.text "info") (.field "json" .flag .nil))) .nil))))))

/-- Configurations in every format. -/
def model : Model Config where
  schema := schema
  pack c := (c.endpoint, c.mode.index, c.timeout, c.defaultNamespace,
    (c.tls.insecureSkipVerify, c.tls.caFile, c.tls.serverName, ()),
    (c.logging.level, c.logging.json, ()), ())
  unpack c := ⟨c.1, Mode.ofIndex c.2.1, c.2.2.1, c.2.2.2.1,
    ⟨c.2.2.2.2.1.1, c.2.2.2.2.1.2.1, c.2.2.2.2.1.2.2.1⟩,
    ⟨c.2.2.2.2.2.1.1, c.2.2.2.2.2.1.2.1⟩⟩
  unpack_pack c :=
    congrArg (fun m => Config.mk c.endpoint m c.timeout c.defaultNamespace c.tls c.logging)
      (Mode.ofIndex_index c.mode)
  pack_unpack c := congrArg (fun m => (c.1, m, c.2.2)) (Mode.index_ofIndex c.2.1)

/-- What every configuration must satisfy. -/
def validate (c : Config) : Except Error Unit :=
  if isBlankText c.endpoint then .error (.configuration .emptyEndpoint)
  else if c.timeout.nanos = 0 then .error (.configuration .zeroTimeout)
  else if maxTimeout.nanos < c.timeout.nanos then .error (.configuration (.longTimeout maxTimeout))
  else if isBlankText c.defaultNamespace then .error (.configuration .emptyNamespace)
  else .ok ()

/-- The configuration, if it is valid. -/
def checked (c : Config) : Except Error Config := do
  c.validate
  return c

/-- The configuration of a YAML document from `source`. -/
def ofYaml (source text : String) : Except Error Config :=
  match model.ofYaml? text with
  | some c => c.checked
  | none => .error (.document source .unreadable)

/-- The mode that a setting asks for. -/
def modeOfSetting (value : String) : Except Error Mode :=
  let value := lower value
  if ["1", "true", "yes"].contains value then .ok .readOnly
  else if ["0", "false", "no", ""].contains value then .ok .readWrite
  else .error (.configuration (.badReadOnly "FLEET_READ_ONLY" value))

/-- The timeout that a setting asks for. -/
def timeoutOfSetting (value : String) : Except Error Span :=
  match Span.parse? value with
  | some t => .ok t
  | none => .error (.configuration (.badTimeout "FLEET_TIMEOUT"))

/-- The configuration of environment settings. -/
def ofSettings (setting? : String → Option String) : Except Error Config := do
  let some endpoint := setting? "FLEET_ENDPOINT"
    | .error (.configuration (.unset "FLEET_ENDPOINT"))
  let c := ofEndpoint endpoint
  let mode ← ((setting? "FLEET_READ_ONLY").map modeOfSetting).getD (.ok c.mode)
  let timeout ← ((setting? "FLEET_TIMEOUT").map timeoutOfSetting).getD (.ok c.timeout)
  let defaultNamespace := (setting? "FLEET_NAMESPACE").getD c.defaultNamespace
  let level := (setting? "FLEET_LOG_LEVEL").getD c.logging.level
  let json := (setting? "FLEET_LOG_JSON").any fun v => ["1", "true", "yes"].contains (lower v)
  checked { c with mode, timeout, defaultNamespace, logging := ⟨level, json⟩ }

/-- The scheme of the endpoints that the service in memory answers. -/
def memoryScheme : String := "memory://"

/-- Validate a configuration and see that its endpoint can be served. -/
def connect (c : Config) : Except Error Config := do
  c.validate
  if memoryScheme.toList.isPrefixOf c.endpoint.toList then return c
  else .error (.configuration (.unserved c.endpoint))

end Config

/-- The levels of logging. -/
inductive Level where
  | error | warn | info | debug | trace
  deriving DecidableEq, Repr

namespace Level

/-- All levels. -/
def all : List Level := [error, warn, info, debug, trace]

/-- The name of a level. -/
def text : Level → String
  | error => "ERROR"
  | warn => "WARN"
  | info => "INFO"
  | debug => "DEBUG"
  | trace => "TRACE"

/-- The level of a name in any case; `info` if there is none of that name. -/
def parse (s : String) : Level :=
  (all.find? fun l => lower l.text == lower s).getD info

end Level

end Fleet
