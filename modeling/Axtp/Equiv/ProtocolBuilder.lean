/-
  The references of the built protocol definition are closed, and when.

  The builder leaves out the schemas without fields. The references of methods and events
  are rewritten to `Empty` where they lose their schema (`schemaRef`), the others are
  copied. So a copied reference has to be one whose schema stays, and `Empty` must not be
  the name of a schema with fields where a reference was rewritten (`refers_schemaRef_iff`,
  `refers_kept_iff`).
-/
import Axtp.Devtools.ProtocolBuilder

namespace Axtp.Devtools.ProtocolSource

/-! ### The schemas that are built -/

theorem lookup_cons_eq {α : Type} (k : Bytes) (entry : Bytes × α) (rest : List (Bytes × α)) :
    (entry :: rest).lookup k = if k = entry.1 then some entry.2 else rest.lookup k := by
  rw [List.lookup_cons]
  by_cases h : k = entry.1
  · rw [if_pos h, beq_iff_eq.mpr h]
  · rw [if_neg h, beq_eq_false_iff_ne.mpr h]

theorem lookup_assignOwn (object : List (Bytes × TypeDefinition)) (name k : Bytes)
    (value : TypeDefinition) :
    (assignOwn name value object).lookup k =
      if k = name then some value else object.lookup k := by
  induction object with
  | nil => rw [assignOwn, lookup_cons_eq]
  | cons entry rest ih =>
    rw [assignOwn]
    by_cases hentry : entry.1 = name
    · rw [if_pos hentry, lookup_cons_eq, lookup_cons_eq, hentry]
      split_ifs <;> rfl
    · rw [if_neg hentry, lookup_cons_eq, ih, lookup_cons_eq]
      split_ifs with hk hname
      · exact absurd (hk.symm.trans hname) hentry
      all_goals rfl

theorem lookup_assign (object : List (Bytes × TypeDefinition)) (name k : Bytes)
    (value : TypeDefinition) :
    (assign object name value).lookup k =
      if k = name ∧ name ≠ ascii "__proto__" then some value else object.lookup k := by
  unfold assign
  by_cases hproto : name = ascii "__proto__"
  · rw [if_pos hproto, if_neg fun h => h.2 hproto]
  · rw [if_neg hproto, lookup_assignOwn]
    by_cases hk : k = name
    · rw [if_pos hk, if_pos ⟨hk, hproto⟩]
    · rw [if_neg hk, if_neg fun h => hk h.1]

variable {source : ProtocolSource}

/-- The source has a schema of this name with fields. -/
def HasFields (source : ProtocolSource) (name : Bytes) : Prop :=
  ∃ schema ∈ source.schemas, schema.name = name ∧ schema.fields ≠ []

/-- What the loop of `buildSchemas` has made of some schemas. -/
theorem lookup_foldl_assign {schemas : List Schema} (object : List (Bytes × TypeDefinition))
    (hnodup : (schemas.map Schema.name).Nodup) (k : Bytes) :
    (∀ schema ∈ schemas, schema.name = k → schema.fields ≠ [] → k ≠ ascii "__proto__" →
      (schemas.foldl (fun result schema =>
        if schema.fields.length = 0 then result
        else assign result schema.name (typeDefinition schema)) object).lookup k =
          some (typeDefinition schema)) ∧
    ((∀ schema ∈ schemas, schema.name = k → schema.fields ≠ [] → k = ascii "__proto__") →
      (schemas.foldl (fun result schema =>
        if schema.fields.length = 0 then result
        else assign result schema.name (typeDefinition schema)) object).lookup k =
          object.lookup k) := by
  induction schemas generalizing object with
  | nil =>
    refine ⟨fun schema hmem => absurd hmem List.not_mem_nil, fun _ => rfl⟩
  | cons first rest ih =>
    rw [List.map_cons, List.nodup_cons] at hnodup
    obtain ⟨hfirst, hrest⟩ := hnodup
    rw [List.foldl_cons]
    obtain ⟨ihmade, ihkept⟩ := ih (if first.fields.length = 0 then object
      else assign object first.name (typeDefinition first)) hrest
    constructor
    · intro schema hmem hname hfields hproto
      rcases List.mem_cons.mp hmem with rfl | hmem
      · -- the others have other names and leave the entry as it is
        have hothers : ∀ other ∈ rest, other.name = k → other.fields ≠ [] →
            k = ascii "__proto__" := by
          intro other hother heq
          exact absurd (List.mem_map.mpr ⟨other, hother, heq.trans hname.symm⟩) hfirst
        rw [ihkept hothers, if_neg (mt List.length_eq_zero_iff.mp hfields), lookup_assign,
          if_pos ⟨hname.symm, hname ▸ hproto⟩]
      · exact ihmade schema hmem hname hfields hproto
    · intro hnone
      rw [ihkept fun schema hmem => hnone schema (List.mem_cons_of_mem _ hmem)]
      by_cases hfields : first.fields = []
      · rw [if_pos (List.length_eq_zero_iff.mpr hfields)]
      · rw [if_neg (mt List.length_eq_zero_iff.mp hfields), lookup_assign, if_neg]
        rintro ⟨hk, hproto⟩
        exact hproto (hk ▸ hnone first (List.mem_cons_self ..) hk.symm hfields)

/-- The entry of a schema with fields. -/
theorem lookup_buildSchemas_of_mem (hnodup : (source.schemas.map Schema.name).Nodup)
    {schema : Schema} (hmem : schema ∈ source.schemas) (hfields : schema.fields ≠ [])
    (hproto : schema.name ≠ ascii "__proto__") :
    (buildSchemas source.schemas).lookup schema.name = some (typeDefinition schema) :=
  (lookup_foldl_assign _ hnodup schema.name).1 schema hmem rfl hfields hproto

/-- Without a schema with fields only `Empty` has an entry. -/
theorem lookup_buildSchemas_of_not (hnodup : (source.schemas.map Schema.name).Nodup)
    {name : Bytes} (h : HasFields source name → name = ascii "__proto__") :
    (buildSchemas source.schemas).lookup name =
      if name = ascii "Empty" then some emptyDefinition else none := by
  unfold buildSchemas
  rw [(lookup_foldl_assign _ hnodup name).2 fun schema hmem hname hfields =>
    h ⟨schema, hmem, hname, hfields⟩, lookup_cons_eq]
  rfl

/-! ### What references mean -/

/-- The definition that a reference of the source means: that of its schema, or the empty one
where there is no schema or it has no fields. -/
def meant (source : ProtocolSource) (reference : Option Bytes) : TypeDefinition :=
  match (given reference).bind fun name =>
      source.schemas.find? fun schema => schema.name = name ∧ schema.fields ≠ [] with
  | some schema => typeDefinition schema
  | none => emptyDefinition

/-- A name of the definition stands for what a reference of the source means. -/
def Refers (source : ProtocolSource) (reference : Option Bytes) (name : Bytes) : Prop :=
  (buildProtocolDefinitionRaw source).schemas.lookup name = some (meant source reference)

theorem given_eq_some_iff {entry : Option Bytes} {name : Bytes} :
    given entry = some name ↔ entry = some name ∧ name ≠ [] := by
  rw [given, Option.filter_eq_some_iff, decide_eq_true_iff]

theorem meant_of_mem (hnodup : (source.schemas.map Schema.name).Nodup) {schema : Schema}
    (hmem : schema ∈ source.schemas) (hfields : schema.fields ≠ []) {reference : Option Bytes}
    (hreference : given reference = some schema.name) :
    meant source reference = typeDefinition schema := by
  have hfind : source.schemas.find? (fun other => other.name = schema.name ∧ other.fields ≠ []) =
      some schema := by
    cases hfound : source.schemas.find? fun other =>
        other.name = schema.name ∧ other.fields ≠ [] with
    | none =>
      have hnot := List.find?_eq_none.mp hfound schema hmem
      exact absurd (decide_eq_true ⟨rfl, hfields⟩) hnot
    | some other =>
      have hfound' := List.find?_some hfound
      have hother : other.name = schema.name ∧ other.fields ≠ [] := of_decide_eq_true hfound'
      exact congrArg some (List.inj_on_of_nodup_map hnodup (List.mem_of_find?_eq_some hfound) hmem
        hother.1)
  unfold meant
  rw [hreference, Option.bind_some, hfind]

theorem meant_of_not {reference : Option Bytes}
    (h : ∀ name, given reference = some name → ¬ HasFields source name) :
    meant source reference = emptyDefinition := by
  unfold meant
  cases hreference : given reference with
  | none => rfl
  | some name =>
    have hfind : source.schemas.find? (fun schema => schema.name = name ∧ schema.fields ≠ []) =
        none := by
      rw [List.find?_eq_none]
      intro schema hmem hschema
      exact h name hreference ⟨schema, hmem, of_decide_eq_true hschema⟩
    rw [Option.bind_some, hfind]

/-- A definition with fields is not the empty one. -/
theorem typeDefinition_ne {schema : Schema} (hfields : schema.fields ≠ []) :
    typeDefinition schema ≠ emptyDefinition := by
  intro h
  have hnil := congrArg TypeDefinition.fields h
  exact hfields (List.map_eq_nil_iff.mp hnil)

/-- **A copied reference** stands for its schema if that stays. -/
theorem refers_kept_iff (hnodup : (source.schemas.map Schema.name).Nodup) {name : Bytes}
    (hne : name ≠ []) :
    Refers source (some name) name ↔
      name ≠ ascii "__proto__" ∧ (name = ascii "Empty" ∨ HasFields source name) := by
  have hgiven : given (some name) = some name := given_eq_some_iff.mpr ⟨rfl, hne⟩
  unfold Refers
  show (buildSchemas source.schemas).lookup name = _ ↔ _
  -- assigning this key sets the prototype, so nothing is kept under it
  by_cases hproto : name = ascii "__proto__"
  · have hempty : name ≠ ascii "Empty" := by
      rw [hproto]
      decide
    rw [lookup_buildSchemas_of_not hnodup fun _ => hproto, if_neg hempty]
    exact iff_of_false (by simp) fun h => h.1 hproto
  by_cases hfields : HasFields source name
  · obtain ⟨schema, hmem, rfl, hschema⟩ := hfields
    rw [lookup_buildSchemas_of_mem hnodup hmem hschema hproto, meant_of_mem hnodup hmem hschema
      hgiven]
    exact iff_of_true rfl ⟨hproto, .inr ⟨schema, hmem, rfl, hschema⟩⟩
  · -- nothing is kept for a schema without fields, and only `Empty` stands for itself
    have hmeant : meant source (some name) = emptyDefinition := by
      apply meant_of_not
      intro other hother
      rw [hgiven] at hother
      exact Option.some.inj hother ▸ hfields
    rw [lookup_buildSchemas_of_not hnodup fun h => absurd h hfields, hmeant]
    by_cases hempty : name = ascii "Empty"
    · rw [if_pos hempty]
      exact iff_of_true rfl ⟨hproto, .inl hempty⟩
    · rw [if_neg hempty]
      exact iff_of_false (by simp) fun h => h.2.elim hempty hfields

theorem meant_congr {reference reference' : Option Bytes}
    (h : given reference = given reference') :
    meant source reference = meant source reference' := by
  unfold meant
  rw [h]

/-- A schema is among those left out if it has no fields. -/
theorem mem_emptySchemaNames_iff (hnodup : (source.schemas.map Schema.name).Nodup) {name : Bytes}
    (hknown : name ∈ source.schemas.map Schema.name) :
    name ∈ emptySchemaNames source.schemas ↔ ¬ HasFields source name := by
  unfold emptySchemaNames
  constructor
  · rintro hempty ⟨schema, hmem, hname, hfields⟩
    obtain ⟨other, hother, heq⟩ := List.mem_map.mp hempty
    obtain ⟨hother, hnil⟩ := List.mem_filter.mp hother
    obtain rfl := List.inj_on_of_nodup_map hnodup hother hmem (heq.trans hname.symm)
    exact hfields (List.length_eq_zero_iff.mp (of_decide_eq_true hnil))
  · intro hnot
    obtain ⟨schema, hmem, rfl⟩ := List.mem_map.mp hknown
    refine List.mem_map.mpr ⟨schema, List.mem_filter.mpr ⟨hmem, ?_⟩, rfl⟩
    by_contra hfields
    refine hnot ⟨schema, hmem, rfl, fun hnil => hfields (decide_eq_true ?_)⟩
    rw [hnil]
    rfl

/-- A reference of a method or an event can be rewritten: its schema stays, or `Empty` is empty. -/
structure Rewritable (source : ProtocolSource) (reference : Option Bytes) : Prop where
  stays : ∀ name, given reference = some name → HasFields source name → name ≠ ascii "__proto__"
  empty : (∀ name, given reference = some name → ¬ HasFields source name) →
    ¬ HasFields source (ascii "Empty")

/-- **A rewritten reference** stands for its schema, or for the empty one, if it can be
rewritten. -/
theorem refers_schemaRef_iff (hnodup : (source.schemas.map Schema.name).Nodup)
    {reference : Option Bytes}
    (hknown : ∀ name, given reference = some name → name ∈ source.schemas.map Schema.name) :
    Refers source reference (schemaRef reference (emptySchemaNames source.schemas)) ↔
      Rewritable source reference := by
  by_cases hfields : ∃ name, given reference = some name ∧ HasFields source name
  · obtain ⟨name, hgiven, hname⟩ := hfields
    have hne := (given_eq_some_iff.mp hgiven).2
    have hstays : name ∉ emptySchemaNames source.schemas := fun hmem =>
      (mem_emptySchemaNames_iff hnodup (hknown name hgiven)).mp hmem hname
    have href : schemaRef reference (emptySchemaNames source.schemas) = name := by
      unfold schemaRef
      rw [hgiven]
      exact if_neg (mt isAmong_iff.mp hstays)
    have hmeant : meant source reference = meant source (some name) :=
      meant_congr (hgiven.trans (given_eq_some_iff.mpr ⟨rfl, hne⟩).symm)
    rw [href, Refers, hmeant, ← Refers, refers_kept_iff hnodup hne]
    constructor
    · rintro ⟨hproto, -⟩
      refine ⟨fun other hother _ => ?_, fun hnone => absurd hname (hnone name hgiven)⟩
      rw [hgiven] at hother
      exact Option.some.inj hother ▸ hproto
    · intro h
      exact ⟨h.stays name hgiven hname, .inr hname⟩
  · -- the schema is left out, or there is none
    have hnone : ∀ name, given reference = some name → ¬ HasFields source name :=
      fun name hgiven hname => hfields ⟨name, hgiven, hname⟩
    have href : schemaRef reference (emptySchemaNames source.schemas) = ascii "Empty" := by
      unfold schemaRef
      cases hgiven : given reference with
      | none => rfl
      | some name =>
        exact if_pos (isAmong_iff.mpr ((mem_emptySchemaNames_iff hnodup (hknown name hgiven)).mpr
          (hnone name hgiven)))
    rw [href, Refers, meant_of_not hnone]
    show (buildSchemas source.schemas).lookup (ascii "Empty") = some emptyDefinition ↔ _
    by_cases hoverridden : HasFields source (ascii "Empty")
    · obtain ⟨schema, hmem, hname, hschema⟩ := hoverridden
      have hlookup := lookup_buildSchemas_of_mem hnodup hmem hschema (by rw [hname]; decide)
      rw [hname] at hlookup
      rw [hlookup]
      refine iff_of_false ?_ fun h => h.empty hnone ⟨schema, hmem, hname, hschema⟩
      exact fun heq => typeDefinition_ne hschema (Option.some.inj heq)
    · rw [lookup_buildSchemas_of_not hnodup fun h => absurd h hoverridden, if_pos rfl]
      exact iff_of_true rfl ⟨fun name hgiven hname => absurd hname (hnone name hgiven),
        fun _ => hoverridden⟩

/-! ### Closed definitions -/

/-- Every name of a schema in the definition is defined there, and stands for what the reference
at its place in the source means. -/
structure Closed (source : ProtocolSource) : Prop where
  defined : ∀ name ∈ (buildProtocolDefinitionRaw source).schemaNames,
    ((buildProtocolDefinitionRaw source).schemas.lookup name).isSome = true
  requests : ∀ method ∈ source.methods,
    Refers source method.requestSchema
      (methodToProtocol method (emptySchemaNames source.schemas)).request
  responses : ∀ method ∈ source.methods,
    Refers source method.responseSchema
      (methodToProtocol method (emptySchemaNames source.schemas)).response
  payloads : ∀ event ∈ source.events,
    Refers source event.eventSchema
      (eventToProtocol event (emptySchemaNames source.schemas)).payload
  capabilities : ∀ capability ∈ source.capabilities, ∀ name,
    given (capabilityToProtocol capability).schema = some name →
      Refers source capability.schema name
  /-- The names in a field are those of the source. -/
  fields : ∀ entry ∈ (buildProtocolDefinitionRaw source).schemas, ∀ field ∈ entry.2.fields,
    ∀ name ∈ field.schemaNames, Refers source (some name) name

/-- The schemas that a field of the source names where the definition keeps them. -/
def namesOf (field : Field) : List Bytes :=
  let itemSchema := (field.array.bind SchemaArray.itemSchema).or field.schema
  let itemType := (field.array.bind SchemaArray.itemType).or itemSchema
  (given field.schema).toList ++
    (if field.type = ascii "array" ∨ field.repeated then
      (given itemSchema).toList ++
        ((given itemType).filter fun name => !isAmong name itemBuiltins).toList
    else []) ++
    field.variants.toList.flatMap fun variants => variants.mapping.map Prod.snd

/-- A reference that is copied keeps its schema. -/
def Stays (source : ProtocolSource) (name : Bytes) : Prop :=
  name ≠ ascii "__proto__" ∧ (name = ascii "Empty" ∨ HasFields source name)

/-- The references of the source survive: those of methods and events can be rewritten, and those
of capabilities and of the fields that are built keep their schemas. -/
structure Survives (source : ProtocolSource) : Prop where
  requests : ∀ method ∈ source.methods, Rewritable source method.requestSchema
  responses : ∀ method ∈ source.methods, Rewritable source method.responseSchema
  payloads : ∀ event ∈ source.events, Rewritable source event.eventSchema
  capabilities : ∀ capability ∈ source.capabilities, ∀ name,
    given capability.schema = some name → Stays source name
  fields : ∀ schema ∈ source.schemas, schema.name ≠ ascii "__proto__" →
    ∀ field ∈ schema.fields, ∀ name ∈ namesOf field, Stays source name

theorem schemaNames_fieldToTypeField (field : Field) :
    (fieldToTypeField field).schemaNames = namesOf field := by
  unfold TypeField.schemaNames fieldToTypeField namesOf
  dsimp only
  split_ifs with h
  · simp only [Option.bind_some, List.append_assoc]
  · have hgiven : given none = none := rfl
    simp only [Option.bind_none, hgiven, Option.filter_none, Option.toList_none, List.append_nil]

theorem mem_assignOwn {object : List (Bytes × TypeDefinition)} {name : Bytes}
    {value : TypeDefinition} {entry : Bytes × TypeDefinition}
    (h : entry ∈ assignOwn name value object) : entry = (name, value) ∨ entry ∈ object := by
  induction object with
  | nil => exact .inl (List.mem_singleton.mp h)
  | cons first rest ih =>
    rw [assignOwn] at h
    split_ifs at h
    · rcases List.mem_cons.mp h with h | h
      · exact .inl h
      · exact .inr (List.mem_cons_of_mem _ h)
    · rcases List.mem_cons.mp h with h | h
      · exact .inr (h ▸ List.mem_cons_self ..)
      · exact (ih h).imp_right (List.mem_cons_of_mem _)

/-- The entries of the definition are `Empty` and the schemas with fields. -/
theorem mem_buildSchemas {entry : Bytes × TypeDefinition}
    (h : entry ∈ buildSchemas source.schemas) :
    entry = (ascii "Empty", emptyDefinition) ∨ ∃ schema ∈ source.schemas,
      schema.name ≠ ascii "__proto__" ∧ schema.fields ≠ [] ∧
        entry = (schema.name, typeDefinition schema) := by
  -- an entry was there before the loop or comes from one of its schemas
  have hloop : ∀ (schemas : List Schema) (object : List (Bytes × TypeDefinition)),
      entry ∈ schemas.foldl (fun result schema =>
        if schema.fields.length = 0 then result
        else assign result schema.name (typeDefinition schema)) object →
      entry ∈ object ∨ ∃ schema ∈ schemas, schema.name ≠ ascii "__proto__" ∧
        schema.fields ≠ [] ∧ entry = (schema.name, typeDefinition schema) := by
    intro schemas
    induction schemas with
    | nil => exact fun _ h => .inl h
    | cons schema rest ih =>
      intro object hmem
      rw [List.foldl_cons] at hmem
      rcases ih _ hmem with hmem | ⟨later, hlater, hrest⟩
      · split_ifs at hmem with hfields
        · exact .inl hmem
        · unfold assign at hmem
          split_ifs at hmem with hproto
          · exact .inl hmem
          · rcases mem_assignOwn hmem with rfl | hmem
            · exact .inr ⟨schema, List.mem_cons_self .., hproto,
                mt List.length_eq_zero_iff.mpr hfields, rfl⟩
            · exact .inl hmem
      · exact .inr ⟨later, List.mem_cons_of_mem _ hlater, hrest⟩
  exact (hloop source.schemas _ h).imp_left List.mem_singleton.mp

theorem mem_of_lookup {name : Bytes} {definition : TypeDefinition}
    {object : List (Bytes × TypeDefinition)} (h : object.lookup name = some definition) :
    (name, definition) ∈ object := by
  obtain ⟨before, after, rfl, -⟩ := List.lookup_eq_some_iff.mp h
  simp

/-! ### Accepted sources -/

theorem validateSpec_schemas {spec : SpecModel} (h : spec.validateSpec = true) :
    SpecModel.assertKnownSchemas spec = true ∧ Devtools.validateSpec spec.schemas = true := by
  unfold SpecModel.validateSpec at h
  dsimp only at h
  split at h
  · cases h
  · simp only [Bool.and_eq_true] at h
    tauto

/-- What the references of methods and events name is a schema of the source. -/
theorem mem_of_assertKnownSchema {reference : Option Bytes} {names : List Bytes}
    (h : assertKnownSchema reference names = true) (name : Bytes)
    (hgiven : given reference = some name) : name ∈ names :=
  of_decide_eq_true h name hgiven

/-- What a field names is not the empty name. -/
theorem ne_nil_of_mem_namesOf {schemas : List Schema} (h : Devtools.validateSpec schemas = true)
    {schema : Schema} (hschema : schema ∈ schemas) {field : Field}
    (hfield : field ∈ schema.fields) {name : Bytes} (hmem : name ∈ namesOf field) : name ≠ [] := by
  rw [Devtools.validateSpec, decide_eq_true_iff] at h
  have hchecked := h.2.2 schema hschema field hfield
  rw [assertField, decide_eq_true_iff] at hchecked
  have hgiven : ∀ {entry : Option Bytes}, name ∈ (given entry).toList → name ≠ [] :=
    fun hentry => (given_eq_some_iff.mp (Option.mem_toList.mp hentry)).2
  unfold namesOf at hmem
  dsimp only at hmem
  rcases List.mem_append.mp hmem with hmem | hmem
  · rcases List.mem_append.mp hmem with hmem | hmem
    · exact hgiven hmem
    · split_ifs at hmem
      · rcases List.mem_append.mp hmem with hmem | hmem
        · exact hgiven hmem
        · have hfilter := Option.mem_toList.mp hmem
          exact (given_eq_some_iff.mp (Option.mem_filter_iff.mp hfilter).1).2
      · cases hmem
  · -- the target of a variant is the name of a schema, and these are not empty
    obtain ⟨variants, hvariants, hmem⟩ := List.mem_flatMap.mp hmem
    obtain ⟨entry, hentry, rfl⟩ := List.mem_map.mp hmem
    have hvalid := hchecked.1 variants (Option.mem_toList.mp hvariants)
    rw [assertValidVariants, Bool.and_eq_true] at hvalid
    have htargets := hvalid.2
    split at htargets
    · cases htargets
    · rw [decide_eq_true_iff] at htargets
      obtain ⟨-, -, -, -, htargets⟩ := htargets
      obtain ⟨target, -, htarget⟩ := List.mem_map.mp (htargets entry hentry).2
      exact htarget ▸ target.named

/-- Every name of the definition is one of the references, so it is defined if they are met. -/
theorem Closed.of_refers
    (hrequests : ∀ method ∈ source.methods, Refers source method.requestSchema
      (methodToProtocol method (emptySchemaNames source.schemas)).request)
    (hresponses : ∀ method ∈ source.methods, Refers source method.responseSchema
      (methodToProtocol method (emptySchemaNames source.schemas)).response)
    (hpayloads : ∀ event ∈ source.events, Refers source event.eventSchema
      (eventToProtocol event (emptySchemaNames source.schemas)).payload)
    (hcapabilities : ∀ capability ∈ source.capabilities, ∀ name,
      given (capabilityToProtocol capability).schema = some name →
        Refers source capability.schema name)
    (hfields : ∀ entry ∈ (buildProtocolDefinitionRaw source).schemas,
      ∀ field ∈ entry.2.fields, ∀ name ∈ field.schemaNames, Refers source (some name) name) :
    Closed source := by
  refine ⟨fun name hname => ?_, hrequests, hresponses, hpayloads, hcapabilities, hfields⟩
  have hdefined : ∀ {reference : Option Bytes}, Refers source reference name →
      ((buildProtocolDefinitionRaw source).schemas.lookup name).isSome = true :=
    fun hrefers => Option.isSome_iff_exists.mpr ⟨_, hrefers⟩
  unfold ProtocolDefinition.schemaNames at hname
  simp only [List.mem_append, or_assoc] at hname
  rcases hname with hname | hname | hname | hname
  · obtain ⟨definition, hdefinition, hname⟩ := List.mem_flatMap.mp hname
    obtain ⟨method, hmem, rfl⟩ := List.mem_map.mp hdefinition
    simp only [List.mem_cons, List.not_mem_nil, or_false] at hname
    rcases hname with rfl | rfl
    · exact hdefined (hrequests method hmem)
    · exact hdefined (hresponses method hmem)
  · obtain ⟨definition, hdefinition, rfl⟩ := List.mem_map.mp hname
    obtain ⟨event, hmem, rfl⟩ := List.mem_map.mp hdefinition
    exact hdefined (hpayloads event hmem)
  · obtain ⟨definition, hdefinition, hname⟩ := List.mem_flatMap.mp hname
    obtain ⟨capability, hmem, rfl⟩ := List.mem_map.mp hdefinition
    exact hdefined (hcapabilities capability hmem name (Option.mem_toList.mp hname))
  · obtain ⟨entry, hentry, hname⟩ := List.mem_flatMap.mp hname
    obtain ⟨field, hfield, hname⟩ := List.mem_flatMap.mp hname
    exact hdefined (hfields entry hentry field hfield name hname)

/-- **The references of the built definition are closed** exactly if those of the source
survive. -/
theorem closed_iff {source : ProtocolSource} (h : source.validateSpec = true) :
    Closed source ↔ Survives source := by
  obtain ⟨hknown, hschemas⟩ := validateSpec_schemas h
  have hschemas' := hschemas
  rw [Devtools.validateSpec, decide_eq_true_iff] at hschemas'
  have hnodup : (source.schemas.map Schema.name).Nodup := of_decide_eq_true hschemas'.1
  rw [SpecModel.assertKnownSchemas, decide_eq_true_iff] at hknown
  obtain ⟨hmethods, hevents, -⟩ := hknown
  -- at each position a reference means a definition exactly if its schema stays what it was
  have hrequest := fun method (hmem : method ∈ source.methods) =>
    refers_schemaRef_iff hnodup (mem_of_assertKnownSchema (hmethods method hmem).1)
  have hresponse := fun method (hmem : method ∈ source.methods) =>
    refers_schemaRef_iff hnodup (mem_of_assertKnownSchema (hmethods method hmem).2)
  have hpayload := fun event (hmem : event ∈ source.events) =>
    refers_schemaRef_iff hnodup (mem_of_assertKnownSchema (hevents event hmem))
  have hcapability : ∀ (capability : Capability) (name : Bytes),
      given capability.schema = some name →
        (Refers source capability.schema name ↔ Stays source name) := by
    intro capability name hgiven
    have hentry := given_eq_some_iff.mp hgiven
    rw [hentry.1]
    exact refers_kept_iff hnodup hentry.2
  constructor
  · intro hclosed
    refine ⟨fun method hmem => (hrequest method hmem).mp (hclosed.requests method hmem),
      fun method hmem => (hresponse method hmem).mp (hclosed.responses method hmem),
      fun event hmem => (hpayload event hmem).mp (hclosed.payloads event hmem),
      fun capability hmem name hgiven => (hcapability capability name hgiven).mp
        (hclosed.capabilities capability hmem name hgiven),
      fun schema hmem hproto field hfield name hname => ?_⟩
    -- a schema with fields has an entry of its own, whose fields name the same schemas
    have hfields : schema.fields ≠ [] := List.ne_nil_of_mem hfield
    have hentry := mem_of_lookup (lookup_buildSchemas_of_mem hnodup hmem hfields hproto)
    rw [← schemaNames_fieldToTypeField] at hname
    have hrefers := hclosed.fields _ hentry _ (List.mem_map_of_mem hfield) name hname
    rw [schemaNames_fieldToTypeField] at hname
    exact (refers_kept_iff hnodup (ne_nil_of_mem_namesOf hschemas hmem hfield hname)).mp hrefers
  · intro hsurvives
    refine .of_refers
      (fun method hmem => (hrequest method hmem).mpr (hsurvives.requests method hmem))
      (fun method hmem => (hresponse method hmem).mpr (hsurvives.responses method hmem))
      (fun event hmem => (hpayload event hmem).mpr (hsurvives.payloads event hmem))
      (fun capability hmem name hgiven => (hcapability capability name hgiven).mpr
        (hsurvives.capabilities capability hmem name hgiven))
      fun entry hentry field hfield name hname => ?_
    -- an entry is the empty definition, or that of a schema with fields
    rcases mem_buildSchemas hentry with rfl | ⟨schema, hmem, hproto, -, rfl⟩
    · cases hfield
    · obtain ⟨sourceField, hsource, rfl⟩ := List.mem_map.mp hfield
      rw [schemaNames_fieldToTypeField] at hname
      exact (refers_kept_iff hnodup (ne_nil_of_mem_namesOf hschemas hmem hsource hname)).mpr
        (hsurvives.fields schema hmem hproto sourceField hsource name hname)

section

variable (source : ProtocolSource)

instance (name : Bytes) : Decidable (HasFields source name) :=
  inferInstanceAs (Decidable (∃ schema ∈ source.schemas, schema.name = name ∧ schema.fields ≠ []))

instance (name : Bytes) : Decidable (Stays source name) := inferInstanceAs (Decidable (_ ∧ _))

instance (reference : Option Bytes) : Decidable (Rewritable source reference) :=
  decidable_of_iff
    ((∀ name ∈ given reference, HasFields source name → name ≠ ascii "__proto__") ∧
      ((∀ name ∈ given reference, ¬ HasFields source name) → ¬ HasFields source (ascii "Empty")))
    ⟨fun h => ⟨h.1, h.2⟩, fun h => ⟨h.stays, h.empty⟩⟩

instance : Decidable (Survives source) :=
  decidable_of_iff
    ((∀ method ∈ source.methods, Rewritable source method.requestSchema) ∧
      (∀ method ∈ source.methods, Rewritable source method.responseSchema) ∧
      (∀ event ∈ source.events, Rewritable source event.eventSchema) ∧
      (∀ capability ∈ source.capabilities, ∀ name ∈ given capability.schema, Stays source name) ∧
      ∀ schema ∈ source.schemas, schema.name ≠ ascii "__proto__" →
        ∀ field ∈ schema.fields, ∀ name ∈ namesOf field, Stays source name)
    ⟨fun h => ⟨h.1, h.2.1, h.2.2.1, h.2.2.2.1, h.2.2.2.2⟩,
      fun h => ⟨h.requests, h.responses, h.payloads, h.capabilities, h.fields⟩⟩

end

/-- A domain with a method that loses its response, an event and a capability, whose schemas name
others in an array, in a field and in its variants. -/
def algorithmSource : ProtocolSource :=
  { domainRegistry := [{ highByte := 0x09, domain := ascii "audio" }]
    methods :=
      [{ id := 0x0901, name := ascii "audio.setAlgorithm", domain := ascii "audio",
         status := ascii "stable", bitOffset := 0, requestSchema := some (ascii "AudioAlgorithm"),
         responseSchema := some (ascii "AudioReset"),
         capabilities := [ascii "audio.algorithm"], events := [ascii "audio.algorithmChanged"] }]
    events :=
      [{ id := 0x0901, name := ascii "audio.algorithmChanged", domain := ascii "audio",
         status := ascii "stable", bitOffset := 0, eventSchema := some (ascii "AudioAlgorithm") }]
    capabilities :=
      [{ id := 0x0901, name := ascii "audio.algorithm", domain := ascii "audio",
         status := ascii "stable", schema := some (ascii "AudioAlgorithmCapability") }]
    schemas :=
      [{ name := ascii "AudioAlgorithmCapability", named := by decide, type := ascii "object",
         fields :=
           [{ id := 1, name := ascii "algorithms", type := ascii "array",
              array := some { itemSchema := some (ascii "AudioAlgorithm") } },
            { id := 2, name := ascii "levels", type := ascii "uint8", repeated := true }] },
       { name := ascii "AudioAlgorithm", named := by decide, type := ascii "object",
         fields :=
           [{ id := 1, name := ascii "kind", type := ascii "enum",
              enum := some [.string (ascii "echo"), .string (ascii "gain")] },
            { id := 2, name := ascii "settings", type := ascii "object",
              variants := some
                { discriminator := ascii "kind",
                  mapping :=
                    [(ascii "echo", ascii "AudioEcho"), (ascii "gain", ascii "AudioGain")] } },
            { id := 3, name := ascii "limit", type := ascii "object",
              schema := some (ascii "AudioGain") }] },
       { name := ascii "AudioEcho", named := by decide, type := ascii "object",
         fields := [{ id := 1, name := ascii "tailMs", type := ascii "uint16" }] },
       { name := ascii "AudioGain", named := by decide, type := ascii "object",
         fields := [{ id := 1, name := ascii "level", type := ascii "uint8" }] },
       { name := ascii "AudioReset", named := by decide, type := ascii "object", fields := [] }] }

theorem closed_algorithmSource : Closed algorithmSource :=
  (closed_iff (by decide +kernel)).mpr (by decide +kernel)

/-- A capability whose schema has no fields yet. -/
def emptyAlgorithmSource : ProtocolSource :=
  { domainRegistry := [{ highByte := 0x09, domain := ascii "audio" }]
    capabilities :=
      [{ id := 0x0901, name := ascii "audio.algorithm", domain := ascii "audio",
         status := ascii "stable", schema := some (ascii "AudioAlgorithmCapability") }]
    schemas :=
      [{ name := ascii "AudioAlgorithmCapability", named := by decide, type := ascii "object",
         fields := [] }] }

/-- It is accepted, and its capability names a schema that the definition does not have. -/
theorem not_closed_emptyAlgorithmSource :
    emptyAlgorithmSource.validateSpec = true ∧
      (buildProtocolDefinitionRaw emptyAlgorithmSource).schemaNames =
        [ascii "AudioAlgorithmCapability"] ∧
      (buildProtocolDefinitionRaw emptyAlgorithmSource).schemas.map Prod.fst = [ascii "Empty"] ∧
      ¬ Closed emptyAlgorithmSource := by
  have hnames : (buildProtocolDefinitionRaw emptyAlgorithmSource).schemaNames =
      [ascii "AudioAlgorithmCapability"] := by decide +kernel
  refine ⟨by decide +kernel, hnames, by decide +kernel, fun hclosed => ?_⟩
  have hdefined := hclosed.defined (ascii "AudioAlgorithmCapability") (by rw [hnames]; simp)
  revert hdefined
  decide +kernel

end Axtp.Devtools.ProtocolSource
