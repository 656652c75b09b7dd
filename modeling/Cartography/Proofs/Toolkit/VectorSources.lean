import Cartography.Proofs.Source.VectorTiles
import Cartography.Proofs.Toolkit.CheckingFirst
import Cartography.Proofs.Toolkit.LooseSources
import Cartography.Proofs.Toolkit.VectorPaths

/-!
# Vector sources on the host

The fields that a vector source is made of decide whether it can be made and what the host is given of
it. So whatever a caller says, a host is never handed a vector source without a type or without a place
where its tiles are.
-/

namespace Cartography

/-- Fields are taken for a source of vector tiles: they have its type, or they have none and say
something of where tiles are. -/
def Fields.TakenForVector (fields : Fields) : Prop :=
  fields.typeValue = .text "vector" ∨
    fields.typeValue = .null ∧ (fields.has "url" = true ∨ fields.has "tiles" = true)

/-- A source of vector tiles as a host can use it: it has its type and says where its tiles are. -/
structure Fields.ServesVector (fields : Fields) : Prop where
  vector : fields.IsVector
  placed : fields.PlacesTiles

namespace Toolkit

variable {settings : Settings} {spec : Value} {options fields made : Fields}

/-! ### What is made -/

theorem serves_of_vector (done : Source.vector settings spec options = .ok made) :
    made.ServesVector := by
  obtain ⟨fields, source, checked, rfl⟩ := Source.vector_eq_ok done
  obtain ⟨-, -, -, placed, -⟩ := VectorSource.ofFields_eq_ok.mp checked
  exact ⟨SourceSpec.get?_type (by simp), VectorSource.placesTiles_toFields placed⟩

/-- Fields of another type are not taken for vector tiles. -/
theorem not_takenForVector (kind : String) (typed : made.get? "type" = some (.text kind))
    (other : kind ≠ "vector") : ¬ made.TakenForVector := by
  rw [Fields.TakenForVector, Fields.typeValue, typed]
  simp [other]

theorem not_takenForVector_of_geojson {data : Value}
    (done : Source.geojson (some data) options = .ok made) : ¬ made.TakenForVector := by
  obtain ⟨features, -, rfl⟩ := Source.geojson_eq_ok done
  exact not_takenForVector "geojson" (SourceSpec.get?_present_self (by simp)) (by decide)

theorem not_takenForVector_of_raster {kind : Option Value}
    (done : Source.raster settings spec kind options = .ok made) : ¬ made.TakenForVector := by
  obtain ⟨_, _, fields, source, -, -, checked, rfl⟩ := Source.raster_eq_ok done
  obtain ⟨-, -, typed, -, -, -⟩ := RasterSource.ofFields_eq_ok.mp checked
  have listed : source.kind ∈ RasterSource.kinds := Source.mem_of_typeField (by decide) typed
  refine not_takenForVector source.kind (SourceSpec.get?_type (by simp)) ?_
  intro same
  rw [same] at listed
  exact absurd listed (by decide)

/-- A text that the rules take for a source given on the spot is taken for features, or for vector
tiles with a place. -/
theorem serves_of_ofText {raw : String} (found : SourceReference.ofText settings raw = .inline made)
    (taken : made.TakenForVector) : made.ServesVector := by
  by_cases scheme : settings.HasScheme raw
  · rw [SourceReference.ofText_scheme scheme] at found
    obtain rfl := SourceReference.inline.inj found
    exact ⟨rfl, Or.inl ⟨raw, rfl⟩⟩
  by_cases template : settings.HoldsPlaceholders raw
  · rw [SourceReference.ofText_template scheme template] at found
    obtain rfl := SourceReference.inline.inj found
    exact ⟨rfl, Or.inr ⟨raw, [], rfl⟩⟩
  by_cases suffix : settings.HasLoweredSuffix raw
  · rw [SourceReference.ofText_features scheme template suffix] at found
    obtain rfl := SourceReference.inline.inj found
    exact absurd taken (not_takenForVector "geojson" rfl (by decide))
  · rw [SourceReference.ofText_name scheme template suffix] at found
    cases found

/-- A mapping is checked as a source of vector tiles if it is taken for one. -/
theorem serves_of_mappedSource (done : mappedSource settings fields = .ok made)
    (taken : made.TakenForVector) : made.ServesVector := by
  rw [mappedSource, describedSource, ← Fields.typeValue] at done
  split at done
  · rename_i kind typed
    split_ifs at done with features vector raster geojson
    · exact absurd taken (not_takenForVector_of_geojson done)
    · exact serves_of_vector done
    · exact absurd taken (not_takenForVector_of_raster done)
    · rw [featureSource] at done
      split at done
      · cases done
      · exact absurd taken (not_takenForVector_of_geojson done)
    · -- a mapping of a type that is not known is passed on as it is
      obtain rfl := Except.ok.inj done
      rw [Fields.TakenForVector, typed] at taken
      simp [vector] at taken
  · rename_i untyped
    split_ifs at done with placed
    · exact serves_of_vector done
    · obtain rfl := Except.ok.inj done
      rw [has_or_erase_type (by decide) (by decide), Bool.or_eq_true] at placed
      rw [Fields.TakenForVector, untyped] at taken
      simp [placed] at taken
  · rename_i other noText noNull
    split_ifs at done
    obtain rfl := Except.ok.inj done
    rcases taken with vector | ⟨null, -⟩
    · exact absurd vector (noText _)
    · exact absurd null noNull

/-- What a loose argument makes serves as a source of vector tiles if it is taken for one. -/
theorem serves_of_looseSource (done : looseSource settings spec = .ok made)
    (taken : made.TakenForVector) : made.ServesVector := by
  cases spec with
  | text raw =>
      rw [looseSource] at done
      split at done
      · rename_i found
        cases done
        exact serves_of_ofText found taken
      · exact serves_of_vector done
  | mapping fields => exact serves_of_mappedSource done taken
  | _ => cases done

end Toolkit

/-! ### What is asked for -/

namespace Script

/-- On every host a script asks for nothing but sources that fit. -/
def AddsOnly (script : Script Answer) (Fits : Fields → Prop) : Prop :=
  ∀ (σ : Type) (host : Host σ) (stage : Stage σ),
    ∃ asked, (script.run host stage).2.requests = stage.requests ++ asked ∧
      ∀ r ∈ asked, ∃ id made, r = .addSource id (.mapping made) ∧ Fits made

variable {script : Script Answer} {Fits : Fields → Prop}

theorem TurnsDown.addsOnly {failure : Failure} (down : script.TurnsDown failure) :
    script.AddsOnly Fits := by
  intro σ host stage
  refine ⟨[], ?_, fun r member => absurd member List.not_mem_nil⟩
  rw [down σ host stage, List.append_nil]

theorem Registers.addsOnly {id : Value} {made : Fields} (registers : script.Registers id made)
    (fits : Fits made) : script.AddsOnly Fits := by
  intro σ host stage
  refine ⟨[.addSource id (.mapping made)], (registers σ host stage).1, ?_⟩
  intro r member
  exact ⟨id, made, List.mem_singleton.mp member, fits⟩

end Script

/-- An operation that adds a source asks for nothing but the source that was built. -/
theorem Toolkit.addsOnly_adding {id : Value} {built : Except Failure Fields}
    {Fits : Fields → Prop} (fits : ∀ made, built = .ok made → Fits made) :
    (adding id built).AddsOnly Fits := by
  cases built with
  | error failure => exact (turnsDown_of_error rfl).addsOnly
  | ok made =>
      by_cases hidden : id.HoldsOversized
      · exact (turnsDown_of_hidden rfl hidden).addsOnly
      · exact (registers_of_ok rfl hidden).addsOnly (fits made rfl)

/-- A call asks for what its command asks for, and for nothing where it makes no command. -/
theorem Call.addsOnly {settings : Settings} {call : Call} {Fits : Fields → Prop}
    (adds : ∀ command, call.command = .ok command → (command.script settings).AddsOnly Fits) :
    (call.script settings).AddsOnly Fits := by
  cases found : call.command with
  | error failure =>
      have down : (call.script settings).TurnsDown failure := by
        intro σ host stage
        rw [Call.script, found]
        rfl
      exact down.addsOnly
  | ok command =>
      rw [Call.script_of_ok settings found]
      exact adds command found

/-- A call by name makes a command of the operation that the name stands for. -/
theorem Call.eq_of_command {name : String} {callable : Callable} {arguments : List Value}
    {named : Fields} {command : Command} (resolved : Callable.resolve name = .ok callable)
    (made : (Call.onToolkit name arguments named).command = .ok command) :
    ∃ b, command = callable.command b := by
  rw [Call.command, resolved, ok_bind] at made
  exact eq_of_apply made

theorem Call.addsOnly_addVector (settings : Settings) (arguments : List Value) (named : Fields) :
    ((Call.onToolkit "add_vector" arguments named).script settings).AddsOnly
      Fields.ServesVector := by
  refine Call.addsOnly fun command made => ?_
  obtain ⟨b, rfl⟩ := Call.eq_of_command rfl made
  exact Toolkit.addsOnly_adding fun made => Toolkit.serves_of_vector

theorem Call.addsOnly_addSource (settings : Settings) (arguments : List Value) (named : Fields) :
    ((Call.onToolkit "add_source" arguments named).script settings).AddsOnly
      fun made => made.TakenForVector → made.ServesVector := by
  refine Call.addsOnly fun command made => ?_
  obtain ⟨b, rfl⟩ := Call.eq_of_command rfl made
  exact Toolkit.addsOnly_adding fun made => Toolkit.serves_of_looseSource

/-- **Vector sources are checked and handed on whole.** With options that leave the names of other
arguments alone, a vector source is made exactly if the fields of its argument, with the options laid
over them, describe one. It has these fields, with the type and without what is null. Where none is
made, callers have broken what they have to keep to. Whatever they say, the operations that add sources
ask for no source of vector tiles but one with its type and with a place where the tiles are. -/
theorem Source.vector_sources_checked (settings : Settings) :
    (∀ spec options, reserved.any options.has = false →
      (∀ fields, spec = .mapping fields → Fields.Distinct fields) →
      ((∃ made, vector settings spec options = .ok made) ↔
        ∃ bare, Gives settings spec bare ∧ (bare.merge options).DescribesVector) ∧
      (∀ made bare, vector settings spec options = .ok made → Gives settings spec bare →
        (bare.merge options).HandsVector made) ∧
      ((¬ ∃ made, vector settings spec options = .ok made) →
        ∃ b, vector settings spec options = .error (.breach b))) ∧
    ∀ arguments named,
      ((Call.onToolkit "add_vector" arguments named).script settings).AddsOnly
        Fields.ServesVector ∧
      ((Call.onToolkit "add_source" arguments named).script settings).AddsOnly
        fun made => made.TakenForVector → made.ServesVector := by
  constructor
  · intro spec options free mapped
    refine ⟨exists_vector_iff free, ?_, ?_⟩
    · exact fun made bare done gives => handsVector_of_vector free mapped gives done
    · intro refused
      have ends : Contractual (vector settings spec options) := contractual_vector free
      cases done : vector settings spec options with
      | ok made => exact absurd ⟨made, done⟩ refused
      | error failure =>
          rw [done] at ends
          cases ends with
          | breach b => exact ⟨b, rfl⟩
  · intro arguments named
    exact ⟨Call.addsOnly_addVector settings arguments named,
      Call.addsOnly_addSource settings arguments named⟩

/-- A mapping says that it is of another type and where its tiles are. The options leave its URL out
and add a zoom level. Within a field null is kept. -/
theorem Source.vector_sources_checked_of_roads :
    let roads : Fields := [("type", .text "raster"), ("url", .text "mapbox://user.roads"),
      ("tiles", .texts ["https://tiles.example.com/roads"]), ("bounds", .list [.null]),
      ("minzoom", .null)]
    let options : Fields := [("url", .null), ("maxzoom", .integer 14)]
    let made : Fields := [("tiles", .texts ["https://tiles.example.com/roads"]),
      ("type", .text "vector"), ("bounds", .list [.null]), ("maxzoom", .integer 14)]
    reserved.any options.has = false ∧ Fields.Distinct roads ∧
      vector .standard (.mapping roads) options = .ok made ∧
      ((roads.erase "type").merge options).DescribesVector ∧
      ((roads.erase "type").merge options).HandsVector made ∧
      (¬ ∃ made, vector .standard (.mapping []) [("tiles", .list [])] = .ok made) ∧
      (∃ b, vector .standard (.mapping []) [("tiles", .list [])] = .error (.breach b)) ∧
      ((Call.onToolkit "add_source" [.text "roads", .mapping roads] []).script .standard).AddsOnly
        fun made => made.TakenForVector → made.ServesVector := by
  intro roads options made
  have free : reserved.any options.has = false := by decide
  have distinct : Fields.Distinct roads := by
    unfold Fields.Distinct
    decide
  have done : vector .standard (.mapping roads) options = .ok made := rfl
  obtain ⟨checked, adds⟩ := vector_sources_checked .standard
  have mapped : ∀ fields, Value.mapping roads = .mapping fields → Fields.Distinct fields := by
    rintro fields same
    rwa [← Value.mapping.inj same]
  obtain ⟨makes, hands, -⟩ := checked (.mapping roads) options free mapped
  obtain ⟨bare, gives, describes⟩ := makes.mp ⟨made, done⟩
  obtain rfl := gives.unique (.mapping roads)
  have empty : ∀ fields, Value.mapping [] = .mapping fields → Fields.Distinct fields := by
    rintro fields same
    rw [← Value.mapping.inj same]
    exact List.nodup_nil
  have refused : ¬ ∃ made, vector .standard (.mapping []) [("tiles", .list [])] = .ok made := by
    rintro ⟨made, done⟩
    cases done
  obtain ⟨-, -, breaches⟩ := checked (.mapping []) [("tiles", .list [])] (by decide) empty
  exact ⟨free, distinct, done, describes, hands made _ done gives, refused, breaches refused,
    (adds _ _).2⟩

end Cartography
