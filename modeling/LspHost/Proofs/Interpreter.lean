import LspHost.Interpreter
import LspHost.Proofs.Json.Limits
import LspHost.Proofs.Outcome

/-!
# What an interpreter is described by

An interpreter that is not named, cannot be run or prints something else than an object is described by
nothing, and otherwise the object gives its version and its search paths as far as they are of the right
types (`Interpreter.IsKnown`). So whatever an interpreter prints, it gets a description, with one exception:
a text that goes beyond what is read ends the inspection with a fault (`Interpreter.inspect_ends`). Such a
text has a row of more digits than are converted, or more brackets than may be within each other.
-/

namespace LspHost.Interpreter

open Json (openings HasDigits)

variable {σ : Type}

/-! ## Descriptions -/

/-- What an object says of an interpreter: its version if that is a text, and its search paths if these are a
list. -/
structure IsSaidBy (fields : Table) (info : Interpreter) : Prop where
  /-- the version is a text of the object -/
  version : ∀ text, fields.find? "version" = some (.string text) → info.version = text
  /-- or empty -/
  noVersion : (∀ text, fields.find? "version" ≠ some (.string text)) → info.version = ""
  /-- the search paths are the items of a list, as texts -/
  searchPaths : ∀ items, fields.find? "paths" = some (.list items) →
    info.searchPaths = items.map Value.display
  /-- or none -/
  noSearchPaths : (∀ items, fields.find? "paths" ≠ some (.list items)) → info.searchPaths = []

/-- What a text that was printed says of an interpreter. -/
inductive Describes (output : String) : Interpreter → Prop
  /-- it is an object, which says what it says -/
  | object {fields : Table} {info : Interpreter} (hparse : Json.parse output = .ok (.table fields))
      (hsaid : IsSaidBy fields info) : Describes output info
  /-- it is another value, which says nothing -/
  | other {value : Value} (hparse : Json.parse output = .ok value)
      (hvalue : ∀ fields, value ≠ .table fields) : Describes output {}
  /-- it is not JSON -/
  | malformed (hparse : Json.parse output = .error .malformed) : Describes output {}

/-- That a text goes beyond what is read, and the fault that this is. -/
inductive Exceeds (output : String) : Fault → Prop
  /-- it has an integer with more digits than are converted -/
  | digits {count : Nat} (hparse : Json.parse output = .error (.tooManyDigits count))
      (hlimit : Json.digitLimit < count) (hdigits : HasDigits count output.toList) :
      Exceeds output (.badText (.tooManyDigits count))
  /-- it has more lists and objects within each other than are permitted -/
  | depth (hparse : Json.parse output = .error .tooDeep)
      (hlimit : Json.depthLimit < openings output.toList) : Exceeds output .tooDeep

/-- **An object** gives the description that it says. -/
theorem isSaidBy_ofAnswer (fields : Table) : IsSaidBy fields (ofAnswer (.table fields)) where
  version := fun text h => by simp [ofAnswer, h, Value.string?]
  noVersion := fun h => by
    rcases hversion : fields.find? "version" with _ | value
    · simp [ofAnswer, hversion]
    · cases value with
      | string text => exact absurd hversion (h text)
      | _ => simp [ofAnswer, hversion, Value.string?]
  searchPaths := fun items h => by simp [ofAnswer, h]
  noSearchPaths := fun h => by
    rcases hpaths : fields.find? "paths" with _ | value
    · simp [ofAnswer, hpaths]
    · cases value with
      | list items => exact absurd hpaths (h items)
      | _ => simp [ofAnswer, hpaths]

/-- **Any other value** says nothing. -/
theorem ofAnswer_of_not_table {value : Value} (h : ∀ fields, value ≠ .table fields) :
    ofAnswer value = {} := by
  cases value with
  | table fields => exact absurd rfl (h fields)
  | _ => rfl

/-- **A text that was printed** describes the interpreter, or goes beyond what is read. -/
theorem ofOutput_ends (python output : String) (s : Scene σ) :
    ∃ left, left.world = s.world ∧
      ((∃ info, ofOutput python output s = .ok info left ∧ Describes output info) ∨
        ∃ fault, ofOutput python output s = .error fault left ∧ Exceeds output fault) := by
  unfold ofOutput
  rcases hparse : Json.parse output with problem | value
  · have hfits := Json.fits_of_parse hparse
    cases problem with
    | malformed =>
      refine ⟨_, ?_, .inl ⟨{}, rfl, .malformed hparse⟩⟩
      rfl
    | tooManyDigits count => exact ⟨s, rfl, .inr ⟨_, rfl, .digits hparse hfits.1 hfits.2⟩⟩
    | tooDeep =>
      have hlimit : Json.depthLimit < 0 + openings output.toList := hfits
      exact ⟨s, rfl, .inr ⟨_, rfl, .depth hparse (by rwa [Nat.zero_add] at hlimit)⟩⟩
  · refine ⟨s, rfl, .inl ⟨ofAnswer value, rfl, ?_⟩⟩
    by_cases htable : ∃ fields, value = .table fields
    · obtain ⟨fields, rfl⟩ := htable
      exact .object hparse (isSaidBy_ofAnswer fields)
    · have hother : ∀ fields, value ≠ .table fields := fun fields h => htable ⟨fields, h⟩
      rw [ofAnswer_of_not_table hother]
      exact .other hparse hother

/-! ## Inspection -/

section Inspection

variable (run : Runner σ) (python : String) (directory : Option String) (s : Scene σ)

/-- The run of an interpreter that is to report about itself. -/
def report : Act σ String := run (.string python) ["-c", script] directory

/-- What becomes known of an interpreter, and in which scene. -/
inductive IsKnown : Interpreter → Scene σ → Prop
  /-- nothing if it has no name, and then nothing is done either -/
  | unnamed (hname : python = "") : IsKnown {} s
  /-- nothing if it could not be run -/
  | failed {query : FailedQuery} {t left : Scene σ} (hname : python ≠ "")
      (hrun : report run python directory s = .error (.queryFailed query) t)
      (hleft : left.world = t.world) : IsKnown {} left
  /-- what the text that it printed says -/
  | printed {output : String} {info : Interpreter} {t left : Scene σ} (hname : python ≠ "")
      (hrun : report run python directory s = .ok output t) (hdescribed : Describes output info)
      (hleft : left.world = t.world) : IsKnown info left

end Inspection

variable {run : Runner σ} {python : String} {directory : Option String} {s : Scene σ}

/-- **An interpreter that has a name** is run, and what it prints is read. -/
theorem inspect_of_ok (hname : python ≠ "") {output : String} {t : Scene σ}
    (hrun : report run python directory s = .ok output t) :
    inspect run python directory s = ofOutput python output t := by
  unfold inspect
  rw [if_neg (by simpa using hname)]
  exact Attempt.bind_of_ok (Act.settle_of_ok hrun) _

/-- **An interpreter that cannot be run** is described by nothing. -/
theorem inspect_of_failed (hname : python ≠ "") {query : FailedQuery} {t : Scene σ}
    (hrun : report run python directory s = .error (.queryFailed query) t) :
    ∃ left, inspect run python directory s = .ok {} left ∧ left.world = t.world := by
  unfold inspect
  rw [if_neg (by simpa using hname)]
  refine ⟨_, Attempt.bind_of_ok (Act.settle_of_queryFailed hrun) _, ?_⟩
  rfl

/-- **An inspection**, where running a program gives a text or fails as such, ends with a description, unless
the text goes beyond what is read. -/
theorem inspect_ends
    (hrun : ∀ fault t, report run python directory s = .error fault t →
      ∃ query, fault = .queryFailed query) :
    (∃ info left, inspect run python directory s = .ok info left ∧
      IsKnown run python directory s info left) ∨
    ∃ output t fault left, python ≠ "" ∧ report run python directory s = .ok output t ∧
      Exceeds output fault ∧ inspect run python directory s = .error fault left ∧
      left.world = t.world := by
  by_cases hname : python = ""
  · subst hname
    exact .inl ⟨{}, s, rfl, .unnamed rfl⟩
  rcases hreport : report run python directory s with ⟨output, t⟩ | ⟨fault, t⟩
  · obtain ⟨left, hleft, ⟨info, hinfo, hdescribed⟩ | ⟨fault, hfault, hexceeds⟩⟩ := ofOutput_ends python output t
    · exact .inl ⟨info, left, (inspect_of_ok hname hreport).trans hinfo,
        .printed hname hreport hdescribed hleft⟩
    · exact .inr ⟨output, t, fault, left, hname, rfl, hexceeds, (inspect_of_ok hname hreport).trans hfault,
        hleft⟩
  · obtain ⟨query, rfl⟩ := hrun fault t hreport
    obtain ⟨left, hinspect, hleft⟩ := inspect_of_failed hname hreport
    exact .inl ⟨{}, left, hinspect, .failed hname hreport hleft⟩

/-! ## Two reports -/

/-- A world in which every program prints the same text. -/
def printing (output : String) : Runner Unit := fun _ _ _ => pure output

/-- An object whose search paths are not all texts. -/
def mixedReport : String := "\x7b\"version\": \"3.12.1\", \"paths\": [\"/lib\", 1]\x7d"

/-- An interpreter that prints an object is described by it, each search path as a text. -/
theorem inspect_ends_mixed :
    (∀ fault t, report (printing mixedReport) "python" none { world := () } = .error fault t →
      ∃ query, fault = .queryFailed query) ∧
    ∃ left, inspect (printing mixedReport) "python" none { world := () } =
        .ok { version := "3.12.1", searchPaths := ["/lib", "1"] } left ∧
      IsKnown (printing mixedReport) "python" none { world := () }
        { version := "3.12.1", searchPaths := ["/lib", "1"] } left := by
  have hrun : ∀ fault t, report (printing mixedReport) "python" none { world := () } = .error fault t →
      ∃ query, fault = .queryFailed query := by
    intro fault t h
    cases h
  have hanswer : (inspect (printing mixedReport) "python" none).answer { world := () } =
      .ok { version := "3.12.1", searchPaths := ["/lib", "1"] } := by
    decide +kernel
  refine ⟨hrun, ?_⟩
  rcases inspect_ends hrun with ⟨info, left, hinspect, hknown⟩ | ⟨_, _, _, _, _, _, _, hinspect, _⟩
  · obtain rfl := Except.ok.inj ((Attempt.answer_of_ok hinspect).symm.trans hanswer)
    exact ⟨left, hinspect, hknown⟩
  · cases (Attempt.answer_of_error hinspect).symm.trans hanswer

/-- **A number of one digit more than is converted** ends the inspection with a fault. -/
theorem inspect_of_long_number :
    inspect (printing (String.ofList ('1' :: List.replicate Json.digitLimit '1'))) "python" none
        { world := () } =
      .error (.badText (.tooManyDigits (Json.digitLimit + 1))) { world := () } := by
  have hname : "python" ≠ "" := by decide
  refine (inspect_of_ok hname rfl).trans ?_
  rw [ofOutput, Json.parse_eq_tooManyDigits (Nat.le_refl _)]
  rfl

end LspHost.Interpreter
