import PromptPipeline.Config
/-!
Configuration layers.

A layer is read from a document whose absent entries take their built-in values, and
`BatchConfig.merge` lays a later layer over an earlier one. Once read, a layer cannot tell an
absent entry from one that restates the built-in value, so a numeric default of the later layer
wins exactly when it differs from the built-in value: a document that writes the built-in value
leaves the earlier layer's setting in place (`BatchConfig.merge_keeps_restated_default`). The
default provider of the later layer wins when it names one. The providers are united, the later
layer's settings winning for a name that both give. Main statement: `BatchConfig.merge_layers`.
-/
namespace PromptPipeline

/-- The numeric defaults of a configuration. -/
inductive Knob where
  | concurrency
  | maxSteps
  | repeatCap

namespace Knob

/-- The entry of a document that sets the default. -/
def key : Knob → String
  | .concurrency => "concurrency"
  | .maxSteps => "max_steps"
  | .repeatCap => "repeat_cap"

/-- The default in a set of defaults. -/
def get : Knob → Defaults → Nat
  | .concurrency, d => d.concurrency
  | .maxSteps, d => d.maxSteps
  | .repeatCap, d => d.repeatCap

/-- The built-in value of the default. -/
def builtin (k : Knob) : Nat := k.get {}

end Knob

/-- What a record document gives for the field `key`, as the decoder of the record `what` with
these fields opens it: the entry of that name in a map, or the item at the field's place in a
list. -/
def Record.givenIn (what : String) (fields : List String) (doc : Value) (key : String) :
    Option Value :=
  (Record.ofValue what fields true doc).toOption.bind (·.given.lookup key)

/-- What a configuration document gives for the default `key`, inside its `defaults` entry. -/
def BatchConfig.givenDefault (doc : Value) (key : String) : Option Value :=
  (Record.givenIn "struct BatchConfig" ["defaults", "providers"] doc "defaults").bind fun d =>
    Record.givenIn "struct Defaults" ["concurrency", "max_steps", "provider", "repeat_cap"] d key

section Reading

open Decoder

theorem bind_eq_ok {ε α β : Type} {x : Except ε α} {f : α → Except ε β} {b : β}
    (h : x >>= f = .ok b) : ∃ a, x = .ok a ∧ f a = .ok b := by
  cases x with
  | error e => cases h
  | ok a => exact ⟨a, rfl, h⟩

theorem givenIn_of_opened {what : String} {fields : List String} {doc : Value} {r : Record}
    (opened : Record.ofValue what fields true doc = .ok r) (key : String) :
    Record.givenIn what fields doc key = r.given.lookup key := by
  simp [Record.givenIn, opened, Except.toOption]

/-- A count is a non-negative integer below `2^64`. -/
theorem size_eq_ok {x : Value} {n : Nat} (read : size x = .ok n) : x = .ofNat n := by
  unfold size word at read
  split at read
  · split at read
    · cases read
    · rename_i i inRange
      cases read
      simp only [Bool.or_eq_true, decide_eq_true_eq, not_or] at inRange
      rw [Value.ofNat, Int.toNat_of_nonneg (Int.not_lt.mp inRange.1)]
  · cases read

/-- An optional name is null or a string. -/
theorem option_string_eq_ok {x : Value} {p : Option String} (read : option string x = .ok p) :
    (x = .null ∧ p = none) ∨ ∃ s, x = .str s ∧ p = some s := by
  cases x with
  | null =>
    cases read
    exact .inl ⟨rfl, rfl⟩
  | str s =>
    cases read
    exact .inr ⟨s, rfl, rfl⟩
  | _ => cases read

/-- A count with a default reads as the built-in value when the record does not give it, and
as the number given otherwise. -/
theorem withDefault_size {r : Record} {key : String} {fallback n : Nat}
    (read : Record.withDefault fallback (r.field key size) = .ok n) :
    (r.given.lookup key = none ∧ n = fallback) ∨ r.given.lookup key = some (.ofNat n) := by
  cases given : r.given.lookup key with
  | none =>
    simp only [Record.field, given, Option.map_none, Record.withDefault, Except.ok.injEq] at read
    exact .inl ⟨rfl, read.symm⟩
  | some x =>
    simp only [Record.field, given, Option.map_some, Record.withDefault] at read
    exact .inr (congrArg some (size_eq_ok read))

/-- An optional name reads as none when the record does not give it or gives null, and as the
string given otherwise. -/
theorem optional_string {r : Record} {key : String} {p : Option String}
    (read : r.optional key (r.field key (option string)) = .ok p) :
    ((r.given.lookup key = none ∨ r.given.lookup key = some .null) ∧ p = none) ∨
      ∃ s, r.given.lookup key = some (.str s) ∧ p = some s := by
  cases given : r.given.lookup key with
  | none =>
    simp only [Record.field, given, Option.map_none, Record.optional] at read
    split at read
    · cases read
    · cases read
      exact .inl ⟨.inl rfl, rfl⟩
  | some x =>
    simp only [Record.field, given, Option.map_some, Record.optional] at read
    rcases option_string_eq_ok read with ⟨rfl, none⟩ | ⟨s, rfl, named⟩
    · exact .inl ⟨.inr rfl, none⟩
    · exact .inr ⟨s, rfl, named⟩

/-- The defaults read from a document: each count is the number the document gives, or the
built-in value when it gives none; the provider is the name given, or none. -/
theorem Defaults.decode_given {doc : Value} {d : Defaults} (read : Defaults.decode doc = .ok d) :
    (∀ k : Knob,
      (Record.givenIn "struct Defaults" ["concurrency", "max_steps", "provider", "repeat_cap"]
          doc k.key = none ∧ k.get d = k.builtin) ∨
        Record.givenIn "struct Defaults" ["concurrency", "max_steps", "provider", "repeat_cap"]
          doc k.key = some (.ofNat (k.get d))) ∧
    (((Record.givenIn "struct Defaults" ["concurrency", "max_steps", "provider", "repeat_cap"]
          doc "provider" = none ∨
        Record.givenIn "struct Defaults" ["concurrency", "max_steps", "provider", "repeat_cap"]
          doc "provider" = some .null) ∧ d.provider = none) ∨
      ∃ s, Record.givenIn "struct Defaults" ["concurrency", "max_steps", "provider", "repeat_cap"]
          doc "provider" = some (.str s) ∧ d.provider = some s) := by
  unfold Defaults.decode at read
  obtain ⟨r, opened, read⟩ := bind_eq_ok read
  obtain ⟨_, -, read⟩ := bind_eq_ok read
  obtain ⟨c, hc, read⟩ := bind_eq_ok read
  obtain ⟨m, hm, read⟩ := bind_eq_ok read
  obtain ⟨p, hp, read⟩ := bind_eq_ok read
  obtain ⟨rc, hrc, read⟩ := bind_eq_ok read
  obtain ⟨_, -, read⟩ := bind_eq_ok read
  cases read
  simp only [givenIn_of_opened opened]
  refine ⟨fun k => ?_, optional_string hp⟩
  cases k
  · exact withDefault_size hc
  · exact withDefault_size hm
  · exact withDefault_size hrc

/-- A configuration read from a document has the defaults read from its `defaults` entry, or the
built-in ones when it has none. -/
theorem BatchConfig.decode_defaults {doc : Value} {c : BatchConfig}
    (read : BatchConfig.decode doc = .ok c) :
    (Record.givenIn "struct BatchConfig" ["defaults", "providers"] doc "defaults" = none ∧
        c.defaults = {}) ∨
      ∃ d, Record.givenIn "struct BatchConfig" ["defaults", "providers"] doc "defaults" = some d ∧
        Defaults.decode d = .ok c.defaults := by
  unfold BatchConfig.decode at read
  obtain ⟨r, opened, read⟩ := bind_eq_ok read
  obtain ⟨_, -, read⟩ := bind_eq_ok read
  obtain ⟨d, hd, read⟩ := bind_eq_ok read
  obtain ⟨ps, -, read⟩ := bind_eq_ok read
  obtain ⟨_, -, read⟩ := bind_eq_ok read
  cases read
  rw [givenIn_of_opened opened]
  cases given : r.given.lookup "defaults" with
  | none =>
    simp only [Record.field, given, Option.map_none, Record.withDefault, Except.ok.injEq] at hd
    exact .inl ⟨rfl, hd.symm⟩
  | some dv =>
    simp only [Record.field, given, Option.map_some, Record.withDefault] at hd
    exact .inr ⟨dv, rfl, hd⟩

/-- Each count of a configuration read from a document is the number the document gives for it,
or the built-in value when it gives none. -/
theorem BatchConfig.knob_given {doc : Value} {c : BatchConfig} (read : BatchConfig.decode doc = .ok c)
    (k : Knob) :
    (BatchConfig.givenDefault doc k.key = none ∧ k.get c.defaults = k.builtin) ∨
      BatchConfig.givenDefault doc k.key = some (.ofNat (k.get c.defaults)) := by
  unfold BatchConfig.givenDefault
  rcases BatchConfig.decode_defaults read with ⟨absent, builtin⟩ | ⟨d, given, defaults⟩
  · rw [absent, builtin]
    exact .inl ⟨rfl, rfl⟩
  · rw [given]
    exact (Defaults.decode_given defaults).1 k

/-- The default provider of a configuration read from a document is the name the document gives,
or none when it gives none or null. -/
theorem BatchConfig.provider_given {doc : Value} {c : BatchConfig}
    (read : BatchConfig.decode doc = .ok c) :
    ((BatchConfig.givenDefault doc "provider" = none ∨
        BatchConfig.givenDefault doc "provider" = some .null) ∧ c.defaults.provider = none) ∨
      ∃ s, BatchConfig.givenDefault doc "provider" = some (.str s) ∧ c.defaults.provider = some s := by
  unfold BatchConfig.givenDefault
  rcases BatchConfig.decode_defaults read with ⟨absent, builtin⟩ | ⟨d, given, defaults⟩
  · rw [absent, builtin]
    exact .inl ⟨.inl rfl, rfl⟩
  · rw [given]
    exact (Defaults.decode_given defaults).2

end Reading

section Merging

/-- A later layer's count replaces the earlier one exactly when it differs from the built-in
value. -/
theorem Knob.get_merge (a b : BatchConfig) (k : Knob) :
    k.get (a.merge b).defaults =
      if k.get b.defaults ≠ k.builtin then k.get b.defaults else k.get a.defaults := by
  cases k
  · by_cases kept : b.defaults.concurrency = 4 <;>
      simp [Knob.get, Knob.builtin, BatchConfig.merge, kept]
  · by_cases kept : b.defaults.maxSteps = 10000 <;>
      simp [Knob.get, Knob.builtin, BatchConfig.merge, kept]
  · by_cases kept : b.defaults.repeatCap = 1000 <;>
      simp [Knob.get, Knob.builtin, BatchConfig.merge, kept]

theorem BatchConfig.provider_merge (a b : BatchConfig) :
    (a.merge b).defaults.provider =
      if b.defaults.provider.isSome then b.defaults.provider else a.defaults.provider := rfl

theorem lookup_cons_eq {β : Type} (k : String) (b : β) (rest : List (String × β)) (a : String) :
    ((k, b) :: rest).lookup a = if a = k then some b else rest.lookup a := by
  by_cases same : a = k
  · subst same
    simp
  · simp [List.lookup_cons, beq_false_of_ne same, same]

/-- Storing a provider sets its name and keeps every other name. -/
theorem BatchConfig.lookup_putProvider (ps : List (String × ProviderSettings)) (name : String)
    (p : ProviderSettings) (other : String) :
    (putProvider ps name p).lookup other = if other = name then some p else ps.lookup other := by
  induction ps with
  | nil => simp [putProvider, lookup_cons_eq]
  | cons entry rest ih =>
    obtain ⟨k, q⟩ := entry
    by_cases below : name < k
    · simp [putProvider, below, lookup_cons_eq]
    by_cases at_ : name = k
    · subst at_
      by_cases same : other = name <;> simp [putProvider, lookup_cons_eq, same]
    · by_cases here : other = k
      · subst here
        simp [putProvider, below, at_, Ne.symm at_]
      · simp [putProvider, lookup_cons_eq, below, at_, here, ih]

/-- Laying providers with distinct names over others: each name takes the later settings when
it has some, and keeps the earlier ones otherwise. -/
theorem BatchConfig.lookup_foldl_putProvider (later : List (String × ProviderSettings))
    (distinct : (later.map (·.1)).Nodup) (earlier : List (String × ProviderSettings))
    (name : String) :
    (later.foldl (fun ps (n, p) => putProvider ps n p) earlier).lookup name =
      (later.lookup name).or (earlier.lookup name) := by
  induction later generalizing earlier with
  | nil => rfl
  | cons entry rest ih =>
    obtain ⟨n, p⟩ := entry
    simp only [List.map_cons, List.nodup_cons] at distinct
    rw [List.foldl_cons, ih distinct.2, lookup_putProvider]
    by_cases same : name = n
    · subst same
      -- a name comes once among the later providers
      have absent : rest.lookup name = none := by
        rw [List.lookup_eq_none_iff]
        intro q mem
        have other : name ≠ q.1 := fun same => distinct.1 (List.mem_map.mpr ⟨q, mem, same.symm⟩)
        simpa using other
      simp [absent]
    · simp [lookup_cons_eq, same]

end Merging

/-- What laying the layer `c`, read from the document `b`, over the configuration `a` gives. -/
structure BatchConfig.LayerLaw (a : BatchConfig) (b : Value) (c : BatchConfig) : Prop where
  /-- a count that `b` gives with a value other than the built-in one takes that value -/
  override : ∀ k : Knob, ∀ n, BatchConfig.givenDefault b k.key = some (.ofNat n) →
    n ≠ k.builtin → k.get (a.merge c).defaults = n
  /-- a count that `b` does not give, or gives with the built-in value, keeps `a`'s -/
  keep : ∀ k : Knob, BatchConfig.givenDefault b k.key = none ∨
    BatchConfig.givenDefault b k.key = some (.ofNat k.builtin) →
    k.get (a.merge c).defaults = k.get a.defaults
  /-- the provider that `b` names is taken -/
  named : ∀ s, BatchConfig.givenDefault b "provider" = some (.str s) →
    (a.merge c).defaults.provider = some s
  /-- without one `a`'s stays -/
  unnamed : BatchConfig.givenDefault b "provider" = none ∨
    BatchConfig.givenDefault b "provider" = some .null →
    (a.merge c).defaults.provider = a.defaults.provider
  /-- the providers are united, `c`'s settings winning for a shared name -/
  providers : ∀ name, (a.merge c).providers.lookup name =
    (c.providers.lookup name).or (a.providers.lookup name)

/-- Laying a layer read from a document over any configuration: the document's counts win where
they differ from the built-in values, its provider where it names one, and its providers
everywhere. -/
theorem BatchConfig.merge_layers (a : BatchConfig) {b : Value} {c : BatchConfig}
    (read : BatchConfig.decode b = .ok c) (distinct : (c.providers.map (·.1)).Nodup) :
    BatchConfig.LayerLaw a b c := by
  refine ⟨fun k n given differs => ?_, fun k kept => ?_, fun s given => ?_, fun kept => ?_,
    BatchConfig.lookup_foldl_putProvider _ distinct _⟩
  · rw [Knob.get_merge]
    rcases BatchConfig.knob_given read k with ⟨absent, -⟩ | written
    · rw [absent] at given
      cases given
    · rw [written] at given
      have cast : ((k.get c.defaults : Nat) : Int) = n := by simpa [Value.ofNat] using given
      have same : k.get c.defaults = n := by omega
      rw [if_pos (same ▸ differs), same]
  · rw [Knob.get_merge]
    rcases BatchConfig.knob_given read k with ⟨-, builtin⟩ | written
    · rw [if_neg fun differs => differs builtin]
    · rw [written] at kept
      have builtin : k.get c.defaults = k.builtin := by
        rcases kept with absent | restated
        · cases absent
        · have cast : ((k.get c.defaults : Nat) : Int) = k.builtin := by
            simpa [Value.ofNat] using restated
          omega
      rw [if_neg fun differs => differs builtin]
  · rw [BatchConfig.provider_merge]
    rcases BatchConfig.provider_given read with ⟨absent | null, -⟩ | ⟨s', written, named⟩
    · rw [absent] at given
      cases given
    · rw [null] at given
      cases given
    · rw [written] at given
      cases given
      rw [named]
      rfl
  · rw [BatchConfig.provider_merge]
    rcases BatchConfig.provider_given read with ⟨-, unnamed⟩ | ⟨s, written, -⟩
    · rw [unnamed]
      rfl
    · rw [written] at kept
      rcases kept with absent | null
      · cases absent
      · cases null

/-- A later layer that sets two counts, one of them to its built-in value, laid over the
built-in configuration. -/
theorem BatchConfig.merge_layers_over_builtin :
    BatchConfig.decode (.map [("defaults", .map [("concurrency", .ofNat 2),
        ("max_steps", .ofNat 10000)])]) = .ok { defaults := { concurrency := 2 } } ∧
      (([] : List (String × ProviderSettings)).map (·.1)).Nodup ∧
      BatchConfig.LayerLaw {} (.map [("defaults", .map [("concurrency", .ofNat 2),
        ("max_steps", .ofNat 10000)])]) { defaults := { concurrency := 2 } } :=
  have read : BatchConfig.decode (.map [("defaults", .map [("concurrency", .ofNat 2),
      ("max_steps", .ofNat 10000)])]) = .ok { defaults := { concurrency := 2 } } := rfl
  ⟨read, List.nodup_nil, BatchConfig.merge_layers {} read List.nodup_nil⟩

/-- The rule "the later layer wins where it sets a key" fails for a later document that writes the
built-in concurrency 4 over an earlier 8: both documents set the key, and the merge keeps 8. -/
theorem BatchConfig.merge_keeps_restated_default :
    BatchConfig.decode (.map [("defaults", .map [("concurrency", .ofNat 8)])]) =
        .ok { defaults := { concurrency := 8 } } ∧
      BatchConfig.decode (.map [("defaults", .map [("concurrency", .ofNat 4)])]) =
        .ok { defaults := { concurrency := 4 } } ∧
      BatchConfig.givenDefault (.map [("defaults", .map [("concurrency", .ofNat 4)])])
        "concurrency" = some (.ofNat 4) ∧
      (({ defaults := { concurrency := 8 } } : BatchConfig).merge
        { defaults := { concurrency := 4 } }).defaults.concurrency = 8 :=
  ⟨rfl, rfl, rfl, rfl⟩

end PromptPipeline
