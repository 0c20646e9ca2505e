import CompositeKey.Proofs.Key.Encoding

/-!
# Reports lose nothing

A report names the target type of every declaration that has a result, with the
specification or the diagnostics.  Its text tells them all.
-/

set_option autoImplicit false

namespace CompositeKey

@[simp]
theorem DiagnosticCode.toJson_inj {first second : DiagnosticCode} :
    first.toJson = second.toJson ↔ first = second := by
  rw [toJson, toJson, Json.ofString_inj]
  constructor
  · intro same
    have read := ofText?_text first
    rw [same, ofText?_text] at read
    exact (Option.some.inj read).symm
  · rintro rfl
    rfl

namespace Diagnostic

@[simp]
theorem toJson_inj {first second : Diagnostic} : first.toJson = second.toJson ↔ first = second := by
  have ranges : ∀ range other, Json.ofOption TextRange.toJson range =
      Json.ofOption TextRange.toJson other ↔ range = other := fun _ _ =>
    Json.ofOption_inj (fun _ => Json.noConfusion) fun _ _ => TextRange.toJson_inj.mp
  cases first
  cases second
  simp [toJson, Json.record_inj, ranges]

theorem noDecimal_toJson (diagnostic : Diagnostic) : diagnostic.toJson.NoDecimal := by
  have text := Json.noDecimal_ofOption Json.noDecimal_ofString
  have range := Json.noDecimal_ofOption noDecimal_textRange diagnostic.range
  simp [toJson, DiagnosticCode.toJson, text, range]

end Diagnostic

namespace CompileReport

theorem fields_ofResult_ok (target : String) (spec : KeySpec) :
    (ofResult target (.ok spec)).fields =
      [("target", Json.ofString target), ("spec", spec.toJson)] := rfl

theorem fields_ofResult_error (target : String) (diagnostics : Diagnostics) :
    (ofResult target (.error diagnostics)).fields =
      [("target", Json.ofString target),
        ("diagnostics", .array (diagnostics.toList.map Diagnostic.toJson))] := by
  have nonempty : diagnostics.toList.isEmpty = false := by
    simpa using diagnostics.ne_nil
  simp [ofResult, fields, nonempty]

theorem toJson_ofResult_inj {target other : String}
    {result otherResult : Except Diagnostics KeySpec} :
    (ofResult target result).toJson = (ofResult other otherResult).toJson ↔
      target = other ∧ result = otherResult := by
  rw [toJson, toJson, Json.record_inj]
  have lists : ∀ first second : List Diagnostic,
      first.map Diagnostic.toJson = second.map Diagnostic.toJson ↔ first = second :=
    fun _ _ => List.map_inj_right fun _ _ => Diagnostic.toJson_inj.mp
  have collections : ∀ first second : Diagnostics,
      first.toList = second.toList ↔ first = second := by
    rintro ⟨first, _⟩ ⟨second, _⟩
    simp
  cases result with
  | ok spec =>
      cases otherResult with
      | ok otherSpec => simp [fields_ofResult_ok]
      | error others => simp [fields_ofResult_ok, fields_ofResult_error]
  | error diagnostics =>
      cases otherResult with
      | ok otherSpec => simp [fields_ofResult_ok, fields_ofResult_error]
      | error others => simp [fields_ofResult_error, lists, collections]

theorem noDecimal_toJson_ofResult (target : String) (result : Except Diagnostics KeySpec) :
    (ofResult target result).toJson.NoDecimal := by
  cases result with
  | ok spec => simp [toJson, fields_ofResult_ok, noDecimal_keySpec]
  | error diagnostics => simp [toJson, fields_ofResult_error, Diagnostic.noDecimal_toJson]

end CompileReport

/-- An object names its target type, and has a specification or some diagnostics, as the
result is. -/
def Json.TellsResult (item : Json) (target : String) (result : Except Diagnostics KeySpec) :
    Prop :=
  item.field? "target" = some (ofString target) ∧
    match result with
    | .ok spec => item.field? "spec" = some spec.toJson ∧ item.field? "diagnostics" = none
    | .error diagnostics => item.field? "spec" = none ∧ ∃ first rest,
        diagnostics.toList = first :: rest ∧
          item.field? "diagnostics" =
            some (.array (first.toJson :: rest.map Diagnostic.toJson))

theorem CompileReport.tellsResult (target : String) (result : Except Diagnostics KeySpec) :
    (ofResult target result).toJson.TellsResult target result := by
  cases result with
  | ok spec =>
      rw [toJson, fields_ofResult_ok]
      exact ⟨rfl, rfl, rfl⟩
  | error diagnostics =>
      rw [toJson, fields_ofResult_error]
      obtain ⟨first, rest, listed⟩ := List.exists_cons_of_ne_nil diagnostics.ne_nil
      refine ⟨rfl, rfl, first, rest, listed, ?_⟩
      rw [listed]
      rfl

/-! ## Whole reports -/

def namedResults (declarations : List KeyDeclaration)
    (results : List (Except Diagnostics KeySpec)) : List (String × Except Diagnostics KeySpec) :=
  (declarations.map fun declaration => declaration.target.name).zip results

section Reports

variable {declarations others : List KeyDeclaration}
  {results otherResults : List (Except Diagnostics KeySpec)}

theorem reportsJson_eq (declarations : List KeyDeclaration)
    (results : List (Except Diagnostics KeySpec)) :
    reportsJson declarations results =
      .array ((namedResults declarations results).map fun named =>
        (CompileReport.ofResult named.1 named.2).toJson) := by
  rw [reportsJson, CompileReport.zip, namedResults, List.map_zipWith, List.zip,
    List.zipWith_map_left, List.map_zipWith]

theorem reportsJson_inj :
    reportsJson declarations results = reportsJson others otherResults ↔
      namedResults declarations results = namedResults others otherResults := by
  have named : ∀ first second : String × Except Diagnostics KeySpec,
      (CompileReport.ofResult first.1 first.2).toJson =
        (CompileReport.ofResult second.1 second.2).toJson → first = second := by
    intro first second same
    obtain ⟨targets, results⟩ := CompileReport.toJson_ofResult_inj.mp same
    exact Prod.ext targets results
  rw [reportsJson_eq, reportsJson_eq, Json.array.injEq, List.map_inj_right named]

theorem parse?_reportsText (declarations : List KeyDeclaration)
    (results : List (Except Diagnostics KeySpec)) :
    Json.parse? (reportsText declarations results) = some (reportsJson declarations results) := by
  apply Json.parse?_pretty
  rw [reportsJson_eq, Json.noDecimal_array, List.forall_mem_map]
  intro named _
  exact CompileReport.noDecimal_toJson_ofResult named.1 named.2

theorem reportsText_inj :
    reportsText declarations results = reportsText others otherResults ↔
      namedResults declarations results = namedResults others otherResults := by
  rw [← reportsJson_inj]
  constructor
  · intro same
    have read := parse?_reportsText declarations results
    rw [same, parse?_reportsText] at read
    exact (Option.some.inj read).symm
  · intro same
    rw [reportsText, reportsText, same]

theorem getElem?_namedResults {index : Nat} {declaration : KeyDeclaration}
    {result : Except Diagnostics KeySpec} (declared : declarations[index]? = some declaration)
    (found : results[index]? = some result) :
    (namedResults declarations results)[index]? = some (declaration.target.name, result) := by
  simp [namedResults, List.getElem?_zip_eq_some, declared, found]

end Reports

/-- The text of a report is a JSON array with an object for each declaration that has a
result, as far as both go.  It tells the names of the target types and the results, and in
a composite specification the list of parts and the place of the delimiter. -/
theorem report_loses_nothing (declarations : List KeyDeclaration)
    (results : List (Except Diagnostics KeySpec)) :
    (∃ items, Json.parse? (reportsText declarations results) = some (.array items) ∧
      items.length = min declarations.length results.length ∧
      ∀ (index : Nat) declaration result, declarations[index]? = some declaration →
        results[index]? = some result →
          ∃ item, items[index]? = some item ∧
            item.TellsResult declaration.target.name result) ∧
    (∀ others otherResults, reportsText declarations results = reportsText others otherResults →
      namedResults declarations results = namedResults others otherResults) ∧
    ∀ parts others index other invariant otherInvariant first second,
      CompositeSpec.ofParts? parts index invariant = some first →
        CompositeSpec.ofParts? others other otherInvariant = some second →
          first.toJson = second.toJson →
            parts = others ∧ index = other ∧ invariant = otherInvariant := by
  refine ⟨⟨(namedResults declarations results).map fun named =>
    (CompileReport.ofResult named.1 named.2).toJson, ?_, ?_, ?_⟩, ?_, ?_⟩
  · exact (parse?_reportsText declarations results).trans
      (congrArg some (reportsJson_eq declarations results))
  · rw [List.length_map, namedResults, List.length_zip, List.length_map]
  · intro index declaration result declared found
    refine ⟨_, ?_, CompileReport.tellsResult declaration.target.name result⟩
    rw [List.getElem?_map, getElem?_namedResults declared found]
    rfl
  · intro others otherResults same
    exact reportsText_inj.mp same
  · intro parts others index other invariant otherInvariant first second split otherSplit same
    exact CompositeSpec.ofParts?_of_toJson split otherSplit same

def twiceSplitParts : List KeyPart :=
  [.constant "ORD" (.ofLength 0 3), .primaryDelimiter ⟨'|', .ofLength 3 1⟩,
    .constant "A" (.ofLength 4 1), .primaryDelimiter ⟨'|', .ofLength 5 1⟩,
    .constant "B" (.ofLength 6 1)]

def splitAtFirst : CompositeSpec :=
  ⟨twiceSplitParts.take 1, ⟨'|', .ofLength 3 1⟩, twiceSplitParts.drop 2, true⟩

def splitAtSecond : CompositeSpec :=
  ⟨twiceSplitParts.take 3, ⟨'|', .ofLength 5 1⟩, twiceSplitParts.drop 4, true⟩

def orderAndBroken : List KeyDeclaration :=
  [⟨.ofName "Order", .ofTemplate "ORD|A|B"⟩, ⟨.ofName "Broken", .ofTemplate "{Missing}"⟩]

def missingProperty : Diagnostics :=
  .single (.partError (.unresolvedProperty "Missing" (.ofLength 0 9)))

theorem report_of_order_and_broken :
    (∃ items, Json.parse? (reportsText orderAndBroken
          [.ok (.composite splitAtFirst), .error missingProperty]) = some (.array items) ∧
      items.length = 2 ∧
      (∃ item, items[0]? = some item ∧
        item.TellsResult "Order" (.ok (.composite splitAtFirst))) ∧
      ∃ item, items[1]? = some item ∧ item.TellsResult "Broken" (.error missingProperty)) ∧
    namedResults orderAndBroken [.ok (.composite splitAtFirst), .error missingProperty] =
      namedResults (orderAndBroken ++ [⟨.ofName "Later", .ofTemplate ""⟩])
        [.ok (.composite splitAtFirst), .error missingProperty] ∧
    CompositeSpec.ofParts? twiceSplitParts 1 true = some splitAtFirst ∧
    CompositeSpec.ofParts? twiceSplitParts 3 true = some splitAtSecond ∧
    splitAtFirst.toJson ≠ splitAtSecond.toJson := by
  obtain ⟨⟨items, read, count, told⟩, recover, sections⟩ := report_loses_nothing orderAndBroken
    [.ok (.composite splitAtFirst), .error missingProperty]
  refine ⟨⟨items, read, count, told 0 _ _ rfl rfl, told 1 _ _ rfl rfl⟩, ?_, rfl, rfl, ?_⟩
  · exact recover _ _ rfl
  · intro same
    obtain ⟨-, place, -⟩ :=
      sections twiceSplitParts twiceSplitParts 1 3 true true _ _ rfl rfl same
    exact absurd place (by decide)

end CompositeKey
