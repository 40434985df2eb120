/-
What is printed of a field, next to what creates a record.

The printed validators follow from the field as the schema has it, and those of the create
input from the field as the input has it.  For a field that is no relation the two views differ
in one thing, whether it has to be there, and nothing but the presence marker follows from
that.  So the two agree, except for a required field that the input leaves open.
-/
import DtoForge.CommandLine.Report
import DtoForge.Proofs.Dto.Admission
import DtoForge.Proofs.Validation.Synthesis

namespace DtoForge

/-- A field that has to be there in a record, but need not be given when one is created. -/
def Field.IsWaived (f : Field) : Prop :=
  f.isRequired = true ∧ f.has .createOptional = true

namespace Report

/-! ### The lines of a field -/

/-- The line of a field's name and type. -/
def heading (f : Field) : String :=
  "    - " ++ f.name ++ " " ++ typeText f ++ "\n"

/-- The line of validators. -/
def validatorsLine (ds : List Decorator) : String :=
  "      " ++ " ".intercalate (ds.map Decorator.text) ++ "\n"

theorem field_eq (s : Settings) (f : Field) :
    field s f = heading f ++ validatorsLine (validators s f) := by
  simp only [field, heading, validatorsLine, String.append_assoc]

/-- Lines that agree behind the first validator are told apart by it. -/
theorem validatorsLine_cons_inj {d e : Decorator} {rest : List Decorator}
    (h : validatorsLine (d :: rest) = validatorsLine (e :: rest)) : d.text = e.text := by
  unfold validatorsLine at h
  rw [String.append_left_inj, String.append_right_inj, List.map_cons, List.map_cons] at h
  cases rest with
  | nil => simpa using h
  | cons next rest =>
      have hne : (next :: rest).map Decorator.text ≠ [] := List.cons_ne_nil _ _
      rw [String.intercalate_cons_of_ne_nil hne, String.intercalate_cons_of_ne_nil hne,
        String.append_left_inj, String.append_left_inj] at h
      exact h

/-! ### Two views of one field -/

/-- How the validators of a field are printed, where the create input has the member `x` for
it. -/
structure Tells (s : Settings) (f : Field) (x : Member) : Prop where
  /-- They are those of the member. -/
  same : ¬f.IsWaived → validators s f = x.validators
  /-- Of a field that may be left out, the print says that it has to be given. -/
  waived : f.IsWaived → ∃ rest, validators s f = .bare "IsNotEmpty" :: rest ∧
    x.validators = .bare "IsOptional" :: rest
  /-- That can be seen in what is printed. -/
  printed : field s f = heading f ++ validatorsLine x.validators ↔ ¬f.IsWaived

section

variable {s : Settings} {m : Model} {f : Field}

/-- Behind the presence marker, a field that is no relation is printed as the create input has
it. -/
theorem exists_validators_eq_cons (hvalidates : s.validates = true)
    (hrelation : f.isRelation = false) :
    ∃ rest, validators s f = Validators.presence f.descriptor :: rest ∧
      (Input.member s .onCreate m f).validators
        = Validators.presence { f.descriptor with isRequired := Side.onCreate.isRequired f }
          :: rest := by
  have hplan : ∃ c, Input.plan s .onCreate m f = Input.plainPlan s .onCreate f c := by
    rw [Input.plan, if_neg (by simp [hrelation])]
    split
    · exact ⟨_, rfl⟩
    · exact ⟨_, rfl⟩
  obtain ⟨c, hplan⟩ := hplan
  refine ⟨_, Validators.synthesize_eq_cons _ _, ?_⟩
  rw [Input.member, hplan, Settings.validators_member _ hvalidates, Validators.synthesize_eq_cons]
  rfl

theorem isRequired_of_not_isWaived (hrelation : f.isRelation = false) (h : ¬f.IsWaived) :
    Side.onCreate.isRequired f = f.isRequired := by
  cases hfield : f.isRequired with
  | false => simp [Side.isRequired, hrelation, hfield]
  | true =>
      have hclosed : f.has .createOptional = false :=
        Bool.eq_false_iff.mpr fun hoptional => h ⟨hfield, hoptional⟩
      simp [Side.isRequired, hrelation, hfield, hclosed]

theorem tells_member (hvalidates : s.validates = true) (hrelation : f.isRelation = false) :
    Tells s f (Input.member s .onCreate m f) := by
  obtain ⟨rest, hprint, hmember⟩ := exists_validators_eq_cons (m := m) hvalidates hrelation
  have hwaived : f.IsWaived → validators s f = .bare "IsNotEmpty" :: rest ∧
      (Input.member s .onCreate m f).validators = .bare "IsOptional" :: rest := by
    rintro ⟨hrequired, hoptional⟩
    rw [hprint, hmember]
    simp [Validators.presence, Field.descriptor, Side.isRequired, hrequired, hoptional]
  have hsame : ¬f.IsWaived → validators s f = (Input.member s .onCreate m f).validators := by
    intro hgiven
    rw [hprint, hmember, isRequired_of_not_isWaived hrelation hgiven]
    rfl
  refine ⟨hsame, fun h => ⟨rest, hwaived h⟩, ?_, ?_⟩
  · intro hline h
    rw [field_eq, String.append_right_inj, (hwaived h).1, (hwaived h).2] at hline
    exact absurd (validatorsLine_cons_inj hline) (by decide)
  · intro h
    rw [field_eq, hsame h]

end

end Report

theorem Settings.validates_of_checkOptions {s : Settings} (hvalidation : s.classValidation = true)
    (hcheck : s.checkOptions = .ok ()) : s.validates = true := by
  refine s.validates_eq_true ?_ hvalidation
  cases hout : s.outputType with
  | classes => rfl
  | interfaces => simp [checkOptions, hvalidation, hout] at hcheck

/-- **What `inspect` prints for a field that is no relation are its validators in the create
input, unless the field has to be there in a record and the input leaves it open.** -/
theorem Report.tells_of_input {s : Settings} {dm : Datamodel} {m : Model} {d : Dto}
    (hvalidation : s.classValidation = true) (hcheck : s.checkOptions = .ok ())
    (h : Dto.input s dm .onCreate m = .ok d) :
    List.Forall₂ (fun f x => x.name = f.name ∧ (f.isRelation = false → Tells s f x))
      (m.fields.filter (Side.onCreate.Takes m ·)) d.members := by
  have hvalidates := Settings.validates_of_checkOptions hvalidation hcheck
  have hassembled := Dto.isAssembled_input h
  have hkind : d.kind = Side.onCreate.kind := hassembled.isOf.kind_eq
  rw [hassembled.holds.members_input hkind, List.forall₂_map_right_iff, List.forall₂_same]
  intro f _
  exact ⟨(Input.shows_member s .onCreate m f).name, Report.tells_member hvalidates⟩

/-- Tickets, whose state starts with a default and may be given all the same. -/
def ticket : Model where
  name := "Ticket"
  fields := [
    { name := "title", kind := .scalar, type := "String", isRequired := true },
    { name := "state", kind := .scalar, type := "String", isRequired := true
      hasDefaultValue := true, documentation := some "@DtoCreateOptional" },
    { name := "place", kind := .object, type := "Address" }]

/-- Tickets and the addresses in them. -/
def Datamodel.helpdesk : Datamodel where
  models := [ticket]
  types := [
    { name := "Address"
      fields := [{ name := "street", kind := .scalar, type := "String", isRequired := true }] }]

/-- What creates a ticket wears these validators. -/
theorem Datamodel.exists_input_ticket :
    ∃ d, Dto.input { classValidation := true } helpdesk .onCreate ticket = .ok d ∧
      d.members.map (·.validators) = [[.bare "IsNotEmpty", .bare "IsString"],
        [.bare "IsOptional", .bare "IsString"],
        [.bare "IsOptional", .bare "ValidateNested", ⟨"Type", some "() => CreateAddressDto"⟩]] := by
  have hok : (Dto.input { classValidation := true } helpdesk .onCreate ticket).toOption.any
      (fun d => d.members.map (·.validators) == [[.bare "IsNotEmpty", .bare "IsString"],
        [.bare "IsOptional", .bare "IsString"],
        [.bare "IsOptional", .bare "ValidateNested", ⟨"Type", some "() => CreateAddressDto"⟩]])
        = true := by
    decide +kernel
  obtain ⟨d, hd, hvalidators⟩ := exists_ok_of_any hok
  exact ⟨d, hd, beq_iff_eq.mp hvalidators⟩

/-- The title and the place of a ticket are printed as they are in the input, and the state is
not. -/
theorem Report.tells_of_input_ticket :
    Settings.checkOptions { classValidation := true } = .ok () ∧
      ∃ d, Dto.input { classValidation := true } .helpdesk .onCreate ticket = .ok d ∧
        d.members.length = 3 ∧
          List.Forall₂ (fun f x => x.name = f.name ∧
              (f.isRelation = false → Tells { classValidation := true } f x))
            (ticket.fields.filter (Side.onCreate.Takes ticket ·)) d.members := by
  have hcheck : Settings.checkOptions { classValidation := true } = .ok () := rfl
  obtain ⟨d, hd, hvalidators⟩ := Datamodel.exists_input_ticket
  have hlength : d.members.length = 3 := by simpa using congrArg List.length hvalidators
  exact ⟨hcheck, d, hd, hlength, Report.tells_of_input rfl hcheck hd⟩

/-- The state of a ticket may be left out when it is created, and `inspect` prints that it may
not. -/
theorem Report.not_field_eq_ticket :
    ¬∀ (s : Settings) (dm : Datamodel) (m : Model) (d : Dto), s.classValidation = true →
      s.checkOptions = .ok () → m ∈ dm.models → Dto.input s dm .onCreate m = .ok d →
        List.Forall₂ (fun f x => f.isRelation = false →
            field s f = heading f ++ validatorsLine x.validators)
          (m.fields.filter (Side.onCreate.Takes m ·)) d.members := by
  intro hclaim
  obtain ⟨d, hd, hvalidators⟩ := Datamodel.exists_input_ticket
  have hlines := hclaim _ _ _ d rfl rfl (List.mem_singleton_self ticket) hd
  have htaken : ∀ f ∈ ticket.fields, decide (Side.onCreate.Takes ticket f) = true := by
    decide +kernel
  rw [List.filter_eq_self.mpr htaken] at hlines
  obtain ⟨x, others, -, hothers, hmembers⟩ := List.forall₂_cons_left_iff.mp hlines
  obtain ⟨y, rest, hstate, -, rfl⟩ := List.forall₂_cons_left_iff.mp hothers
  rw [hmembers] at hvalidators
  have hy : y.validators = [.bare "IsOptional", .bare "IsString"] :=
    (List.cons.inj (List.cons.inj hvalidators).2).1
  have hline := hstate rfl
  rw [field_eq, hy, String.append_right_inj] at hline
  exact absurd hline (by decide +kernel)

end DtoForge
