import TaskCrew.Proofs.Spelling
import TaskCrew.Proofs.Documents

/-!
# Configurations come back from their documents

What is written for a configuration is the text of an object with one member for each field, in the
usual spelling. So it is read by the same theorem as every other object, and the settings that it
gives are those of the configuration.
-/

namespace TaskCrew

open Json

namespace Setting

lemma write_scalar (s : Setting) : s.scalar.write = Config.writeValue s := by
  cases s with
  | workerCount n | threadStackSize n => exact Numeral.write_ofInt n.toNat
  | errorLimit n => exact Numeral.write_ofInt n.toInt
  | queueCapacity n =>
    cases n with
    | none => rfl
    | some n => exact Numeral.write_ofInt n.toNat
  | threadNamePrefix text => exact writeGlyphs_spell text.toList

lemma write_member (s : Setting) : s.member.write Value.write = Config.writeMember s := by
  simp [member, Config.Field.member, Member.write, Padded.write, Blank.none, writeGlyphs_spell,
    Value.write_scalar, write_scalar, Config.writeMember]

end Setting

/-- Settings for different fields are read back from their members. -/
theorem settings?_members {settings : List Setting} (distinct : (settings.map Setting.field).Nodup) :
    settings? [] (settings.map Setting.member) = some settings := by
  have saidEach : Member.said? ∘ Setting.member = fun s => some (s.field, some s) := by
    funext s
    rw [Function.comp_apply, Setting.member, Member.said?, Config.Field.field?_member, Option.map_some]
    exact congrArg (fun said => some (s.field, said)) s.setting?_scalar
  have said : said (settings.map Setting.member) = settings.map fun s => (s.field, some s) := by
    rw [said, List.filterMap_map, saidEach]
    exact congrFun List.filterMap_eq_map' settings
  refine settings?_eq_some.2 ⟨readable_iff.2 ⟨?_, ?_, ?_⟩, ?_⟩
  · refine List.forall_mem_map.2 fun (s : Setting) mem => ?_
    exact Option.isSome_iff_exists.2 ⟨_, Config.Field.name?_member s.field _⟩
  · rw [said, List.map_map]
    exact distinct
  · simp [said]
  · have setting : Member.setting? ∘ Setting.member = some := funext Setting.setting?_member
    rw [List.filterMap_map, setting, List.filterMap_some]

namespace Config

/-- A configuration is written as an object. -/
lemma toJson_eq_document (c : Config) :
    c.toJson = Padded.document ⟨.none, .object (c.settings.map Setting.member) .none, .none⟩ := by
  have members : (c.settings.map Setting.member).map (·.write Value.write) =
      c.settings.map writeMember := by
    rw [List.map_map]
    exact List.map_congr_left fun s _ => s.write_member
  simp [toJson, write, Padded.document, Padded.write, Value.write_object, members, separated,
    Blank.none]

lemma distinct_settings_fields (c : Config) : (c.settings.map Setting.field).Nodup := by
  show [Field.workerCount, .errorLimit, .queueCapacity, .threadStackSize, .threadNamePrefix].Nodup
  decide

/-- A configuration is read back from its own document, on whatever machine, if it is accepted, and refused
for the fault that it has if it is not. -/
theorem ofJson_toJson (machine : Machine) (c : Config) :
    ofJson machine c.toJson =
      match c.fault? with
      | none => .ok c
      | some fault => .error (.refused fault) := by
  have settings : (readSettings c.toJson.toList).toOption = some c.settings := by
    rw [toJson_eq_document, readSettings_object, settings?_members c.distinct_settings_fields]
  rw [ofJson_of_settings machine settings, setAll_settings, accept]
  cases c.fault? <;> rfl

end Config

end TaskCrew
