import PromptPipeline.Provider.Basic
/-!
Providers that answer without a model, and the registry that routes requests by name.

`echo` answers with the prompt itself; `requestEcho` with the compact JSON text of the whole
request. A `script` gives its replies in call order and fails once they are used up; a `table`
looks the prompt up and echoes prompts it does not hold. All answer in 0 ms unless a reply says
otherwise.

A registry holds providers under names, `echo` always among them. A request goes to the forced
provider if there is one, else to the one the request names, else to the default; a request that
resolves to no name, or to a name not held, is rejected. Answering may change a provider (a script
uses up a reply), so `answer` gives the provider back with the reply.
-/
namespace PromptPipeline

/-- A provider that needs no model. -/
inductive Provider where
  | echo
  | requestEcho
  /-- replies in call order -/
  | script (replies : List Reply)
  /-- replies by prompt text -/
  | table (entries : List (String × Reply))
  /-- providers by name, the default name and the forced name -/
  | registry (members : List (String × Provider)) (default forced : Option String)

namespace Provider

/-- The reply of a script once its replies are used up. -/
def exhausted : ProviderFault := ⟨.unknown, "script exhausted"⟩

/-- The name a registry sends a request to: forced, named by the request, or the default. -/
def routeName (request : PromptRequest) (default forced : Option String) :
    Except ProviderFault String :=
  match forced <|> request.provider <|> default with
  | some name => .ok name
  | none => .error ⟨.invalid, "prompt names no provider and no default is configured"⟩

mutual
/-- Answers a request; the provider as it is afterwards. -/
def answer : Provider → PromptRequest → Reply × Provider
  | .echo, r => (.ok { rawText := r.text }, .echo)
  | .requestEcho, r => (.ok { rawText := Json.write r.toValue }, .requestEcho)
  | .script [], _ => (.error exhausted, .script [])
  | .script (reply :: rest), _ => (reply, .script rest)
  | .table entries, r =>
    ((entries.lookup r.text).getD (.ok { rawText := r.text }), .table entries)
  | .registry members default forced, r =>
    match routeName r default forced with
    | .error f => (.error f, .registry members default forced)
    | .ok name =>
      match answerMember name r members with
      | some (reply, members) => (reply, .registry members default forced)
      | none => (.error ⟨.invalid, "unknown provider '" ++ name ++ "'"⟩, .registry members default forced)

/-- Lets the member called `name` answer; none when no member has that name. -/
def answerMember (name : String) (r : PromptRequest) :
    List (String × Provider) → Option (Reply × List (String × Provider))
  | [] => none
  | (n, p) :: rest =>
    if n == name then
      let (reply, p) := answer p r
      some (reply, (n, p) :: rest)
    else (answerMember name r rest).map fun (reply, rest) => (reply, (n, p) :: rest)
end

/-- A registry of `echo` and the given members, a member replacing `echo` if it has that name;
of two members with one name the later one stays. -/
def registryOf (members : List (String × Provider)) (default forced : Option String) : Provider :=
  let put (ms : List (String × Provider)) (entry : String × Provider) :=
    if ms.any (·.1 == entry.1) then ms.map fun m => if m.1 == entry.1 then entry else m
    else ms ++ [entry]
  .registry (members.foldl put [("echo", .echo)]) default forced

end Provider

end PromptPipeline
