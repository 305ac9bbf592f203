import PromptPipeline.Value.Decode
/-!
Batch configuration and its layers.

A configuration gives defaults (workers per run, step budget, repeat cap, default provider) and
named provider settings. Configurations come in layers, later ones overriding earlier ones: a
default that a later layer sets to something other than the built-in value replaces the earlier
one, a provider named in a later layer replaces the earlier settings of that name, and other
providers are kept. A provider whose command is an `http://` or `https://` address is reached
over HTTP; any other command is a program to run.
-/
namespace PromptPipeline

/-- The settings of one provider. -/
structure ProviderSettings where
  /-- the program to run, or the base address of an HTTP service -/
  command : String
  args : List String := []
  enabled : Bool := true
  /-- seconds allowed for one request -/
  timeout : Nat := 120
  model : Option String := none
  apiKey : Option String := none
  apiKeyEnv : Option String := none
  env : List (String × String) := []

/-- Whether a provider is reached over HTTP. -/
def ProviderSettings.isHttp (p : ProviderSettings) : Bool :=
  p.command.startsWith "http://" || p.command.startsWith "https://"

/-- The built-in defaults. -/
structure Defaults where
  concurrency : Nat := 4
  maxSteps : Nat := 10000
  provider : Option String := none
  repeatCap : Nat := 1000

/-- A configuration: the defaults and the providers by name, in ascending order of names. -/
structure BatchConfig where
  defaults : Defaults := {}
  providers : List (String × ProviderSettings) := []

namespace BatchConfig

/-- Stores the settings of a provider under its name, replacing earlier settings. -/
def putProvider (ps : List (String × ProviderSettings)) (name : String) (p : ProviderSettings) :
    List (String × ProviderSettings) :=
  match ps with
  | [] => [(name, p)]
  | (k, q) :: rest =>
    if name < k then (name, p) :: (k, q) :: rest
    else if name == k then (name, p) :: rest
    else (k, q) :: putProvider rest name p

/-- Lays `other` over `c`: its defaults where they differ from the built-in ones, its provider
name where it sets one, and its providers over those of the same name. -/
def merge (c other : BatchConfig) : BatchConfig :=
  let builtin : Defaults := {}
  let d := c.defaults
  let o := other.defaults
  { defaults :=
      { concurrency := if o.concurrency != builtin.concurrency then o.concurrency else d.concurrency
        maxSteps := if o.maxSteps != builtin.maxSteps then o.maxSteps else d.maxSteps
        repeatCap := if o.repeatCap != builtin.repeatCap then o.repeatCap else d.repeatCap
        provider := if o.provider.isSome then o.provider else d.provider }
    providers := other.providers.foldl (fun ps (name, p) => putProvider ps name p) c.providers }

/-- The providers that are enabled, by name. -/
def enabledProviders (c : BatchConfig) : List (String × ProviderSettings) :=
  c.providers.filter (·.2.enabled)

end BatchConfig

open Decoder

/-- Reads the settings of a provider; only the command is required. -/
def ProviderSettings.decode : Decoder ProviderSettings := fun v => do
  let r ← Record.ofValue "struct ProviderConfig"
    ["command", "args", "enabled", "timeout", "model", "api_key", "api_key_env", "env"] true v
  let command := r.field "command" string
  let args := r.field "args" (list string)
  let enabled := r.field "enabled" boolean
  let timeout := r.field "timeout" word64
  let model := r.field "model" (option string)
  let apiKey := r.field "api_key" (option string)
  let apiKeyEnv := r.field "api_key_env" (option string)
  let env := r.field "env" (entries string)
  r.check [Record.faultOf command, Record.faultOf args, Record.faultOf enabled,
    Record.faultOf timeout, Record.faultOf model, Record.faultOf apiKey, Record.faultOf apiKeyEnv,
    Record.faultOf env]
  let settings : ProviderSettings :=
    { command := ← r.required "command" command
      args := ← Record.withDefault [] args
      enabled := ← Record.withDefault true enabled
      timeout := ← Record.withDefault 120 timeout
      model := ← r.optional "model" model
      apiKey := ← r.optional "api_key" apiKey
      apiKeyEnv := ← r.optional "api_key_env" apiKeyEnv
      env := ← Record.withDefault [] env }
  r.finish
  pure settings

/-- Reads the defaults; absent ones take their built-in values. -/
def Defaults.decode : Decoder Defaults := fun v => do
  let r ← Record.ofValue "struct Defaults" ["concurrency", "max_steps", "provider", "repeat_cap"]
    true v
  let concurrency := r.field "concurrency" size
  let maxSteps := r.field "max_steps" size
  let provider := r.field "provider" (option string)
  let repeatCap := r.field "repeat_cap" size
  r.check [Record.faultOf concurrency, Record.faultOf maxSteps, Record.faultOf provider,
    Record.faultOf repeatCap]
  let builtin : Defaults := {}
  let d : Defaults :=
    { concurrency := ← Record.withDefault builtin.concurrency concurrency
      maxSteps := ← Record.withDefault builtin.maxSteps maxSteps
      provider := ← r.optional "provider" provider
      repeatCap := ← Record.withDefault builtin.repeatCap repeatCap }
  r.finish
  pure d

/-- Reads a configuration layer. -/
def BatchConfig.decode : Decoder BatchConfig := fun v => do
  let r ← Record.ofValue "struct BatchConfig" ["defaults", "providers"] true v
  let defaults := r.field "defaults" Defaults.decode
  let providers := r.field "providers" (entries ProviderSettings.decode)
  r.check [Record.faultOf defaults, Record.faultOf providers]
  let c : BatchConfig :=
    { defaults := ← Record.withDefault {} defaults
      providers := ← Record.withDefault [] providers }
  r.finish
  pure c

/-- A configuration as data. -/
def BatchConfig.toValue (c : BatchConfig) : Value :=
  let name : Option String → Value := fun o => (o.map Value.str).getD .null
  let provider (p : ProviderSettings) : Value :=
    .map [("api_key", name p.apiKey), ("api_key_env", name p.apiKeyEnv),
      ("args", .list (p.args.map .str)), ("command", .str p.command), ("enabled", .bool p.enabled),
      ("env", .map (Map.ofList (p.env.map fun (k, x) => (k, .str x)))), ("model", name p.model),
      ("timeout", .ofNat p.timeout)]
  .map [("defaults", .map [("concurrency", .ofNat c.defaults.concurrency),
      ("max_steps", .ofNat c.defaults.maxSteps), ("provider", name c.defaults.provider),
      ("repeat_cap", .ofNat c.defaults.repeatCap)]),
    ("providers", .map (c.providers.map fun (k, p) => (k, provider p)))]

end PromptPipeline
