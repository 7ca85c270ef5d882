import BuildConductor.Proofs.Document.Schema
import BuildConductor.Proofs.Plan.Agreement
import BuildConductor.Proofs.Text.Case

/-! The platform of a document.

A document either names its platform or says `auto`, in any letter case. A plan then has the
platform of the host, or else one of the name that was said; the document keeps what was said
and is saved with it, so that the host is seen in plans alone (`platform_kept`). -/
namespace BuildConductor

open Json (Reader AllSpaces Spells lastOf?)

namespace PlatformSetting

/-- Whether a text is `auto`, each letter of it small or capital. -/
def IsAuto (s : String) : Prop :=
  List.Forall₂ (fun c letter => c = letter ∨ c = letter.toUpper) s.toList "auto".toList

theorem sameUpToAsciiCase_auto_iff (s : String) :
    Text.sameUpToAsciiCase s "auto" = true ↔ IsAuto s := by
  have hsmall : ∀ letter ∈ "auto".toList,
      (letter.isLower && letter.toLower == letter) = true := List.all_eq_true.1 (by decide)
  rw [Text.sameUpToAsciiCase, beq_iff_eq, IsAuto]
  generalize s.toList = cs, "auto".toList = letters at hsmall
  induction letters generalizing cs with
  | nil => simp
  | cons letter letters ih =>
    obtain ⟨hletter, hletters⟩ := List.forall_mem_cons.1 hsmall
    rw [Bool.and_eq_true, beq_iff_eq] at hletter
    obtain ⟨hlower, hsame⟩ := hletter
    cases cs with
    | nil => simp
    | cons c cs =>
      rw [List.map_cons, List.map_cons, List.cons.injEq, List.forall₂_cons, hsame]
      exact and_congr (Text.toLower_eq_iff hlower) (ih cs hletters)

instance (s : String) : Decidable (IsAuto s) :=
  decidable_of_iff _ (sameUpToAsciiCase_auto_iff s)

theorem ofText_of_isAuto {s : String} (h : IsAuto s) : ofText s = .auto := by
  rw [ofText, if_pos ((sameUpToAsciiCase_auto_iff s).2 h)]

theorem ofText_of_not_isAuto {s : String} (h : ¬IsAuto s) : ofText s = .fixed (.ofStored s) := by
  rw [ofText, if_neg (mt (sameUpToAsciiCase_auto_iff s).1 h)]

/-- The text that is kept of a platform that was said. -/
def keptText (s : String) : String :=
  if IsAuto s then "auto" else s

theorem text_ofText (s : String) : (ofText s).text = keptText s := by
  unfold keptText
  split
  · rename_i h
    rw [ofText_of_isAuto h, text]
  · rename_i h
    rw [ofText_of_not_isAuto h, text, Platform.name_ofStored]

end PlatformSetting

/-! ### In the text of a document -/

namespace DocumentDraft

/-- No other field of a document changes the platform that was read. -/
theorem platform_field {setting : PlatformSetting} {draft : DocumentDraft}
    (hdraft : draft.platform = some setting) {field : Field DocumentDraft}
    (hfield : field ∈ fields) (hnew : field.isRead draft = false) :
    field.reader.Yields fun set => (set draft).platform = some setting := by
  simp only [fields, List.mem_cons, List.not_mem_nil, or_false] at hfield
  rcases hfield with rfl | rfl | rfl | rfl | rfl
  · simp [platformField, hdraft] at hnew
  · exact Json.text.yields_true.map fun _ _ => hdraft
  · exact (KeyMap.reader ModuleSwitches.reader).yields_true.map fun _ _ => hdraft
  · exact (KeyMap.reader DependencySwitches.reader).yields_true.map fun _ _ => hdraft
  · exact (KeyMap.reader _).yields_true.map fun _ _ => hdraft

/-- The platform is read once: no member behind it changes it. -/
theorem platform_member {setting : PlatformSetting} (draft : DocumentDraft) (key : String)
    (reader : Reader DocumentDraft) (hdraft : draft.platform = some setting)
    (hreader : member draft key = some reader) :
    reader.Yields fun next => next.platform = some setting :=
  member_yields (fun _ hfield hnew => platform_field hdraft hfield hnew)
    (fun _ _ _ _ _ _ => hdraft) hreader

/-- The members of a document that begin with a platform give that platform. -/
theorem platform_of_readObject {s : String} {rest after : List Char} {draft : DocumentDraft}
    (h : Json.readObject member {}
      ("\n  \"platform\": ".toList ++ (Json.writeString s ++ ',' :: rest)) = .ok (draft, after)) :
    draft.platform = some (.ofText s) := by
  have htext : "\n  \"platform\": ".toList ++ (Json.writeString s ++ ',' :: rest) =
      Json.prettySpacing.lineBreak 1 ++ '"' :: ("platform".toList.flatMap Json.escapeChar ++
        '"' :: ':' :: (Json.prettySpacing.afterColon ++ Json.writeString s ++ ',' :: rest)) := by
    simp [Json.prettySpacing, Json.escapeChar]
  have htakes := ((Json.text_takes s).map fun s (d : DocumentDraft) =>
    {d with platform := some (.ofText s)}).map fun set => set {}
  have hvalue := htakes _ (',' :: rest) Json.prettySpacing_isBlank.afterColon
    (Json.endsNumber_cons (by decide) rest)
  have hreader : member {} "platform" = some (platformField.reader.map fun set => set {}) := rfl
  have hstep := Json.readMembers_step
    (Json.nextKey?_quote (Json.prettySpacing_isBlank.lineBreak 1) _)
    (Json.readString_written "platform" _) hreader (Json.readColon_colon _) hvalue
  rw [htext, Json.readObject, hstep] at h
  split at h
  · cases h
  rename_i hmembers
  split at h
  · cases h
  cases h
  exact Json.readMembers_invariant platform_member rfl hmembers

end DocumentDraft

namespace Document

/-- The platform is the first thing that is saved. -/
theorem write_platform (doc : Document) :
    ∃ rest, doc.write.toList = "\x7b\n  \"platform\": ".toList ++
      (Json.writeString doc.platform.text ++ ',' :: rest) := by
  obtain ⟨member, members, hjson⟩ : ∃ member members,
      doc.toJson = .object (("platform", .string doc.platform.text) :: member :: members) :=
    ⟨_, _, rfl⟩
  refine ⟨Json.prettySpacing.lineBreak 1 ++ (Json.writeString member.1 ++
    ':' :: (Json.prettySpacing.afterColon ++ (Json.write Json.prettySpacing 1 member.2 ++
      (Json.writeMembers Json.prettySpacing 1 members ++
        (Json.prettySpacing.lineBreak 0 ++ ['\x7d', '\n']))))), ?_⟩
  rw [write, Json.pretty, hjson, String.toList_append, String.toList_ofList]
  simp [Json.write, Json.writeMembers, Json.prettySpacing, Json.writeString, Json.escapeChar]

/-- Whatever else was saved, a document that is read again has the platform that it was
saved with. -/
theorem platform_of_read_write {doc again : Document} (h : read doc.write = .ok again) :
    again.platform = .ofText doc.platform.text := by
  obtain ⟨rest, hwrite⟩ := doc.write_platform
  obtain ⟨after, hread⟩ := Json.readAll_eq_ok h
  have hstart : "\x7b\n  \"platform\": ".toList = '\x7b' :: "\n  \"platform\": ".toList := by
    decide
  rw [hwrite, hstart] at hread
  simp only [Document.reader, List.cons_append, Json.skipSpaces_cons (c := '\x7b') rfl,
    if_true] at hread
  obtain ⟨⟨draft, _⟩, hobject, heq⟩ := except_map_eq_ok hread
  cases heq
  rw [DocumentDraft.toDocument, DocumentDraft.platform_of_readObject hobject, Option.getD_some]

/-- A document has the platform that its text says. -/
theorem platform_of_spelled {before text after : List Char} {v : Json} {s : String} {path : Path}
    {doc : Document} (hbefore : AllSpaces before) (hspelled : Spells Json.deepest text v)
    (hafter : AllSpaces after) (hsaid : lastOf? "platform" v.members = some (.string s))
    (hparse : parse (String.ofList (before ++ (text ++ after))) path = .ok doc) :
    doc.platform = .ofText s := by
  have hdecode : decode v = some doc := by
    rw [← read_spelled hbefore hspelled hafter, parse_eq_ok_iff.1 hparse]
    rfl
  cases v with
  | object members =>
    obtain ⟨draft, hfold, rfl⟩ := Option.map_eq_some_iff.1 hdecode
    rw [Json.members] at hsaid
    rw [DocumentDraft.toDocument, DocumentDraft.platform_of_foldlM hfold, hsaid]
    rfl
  | _ => cases hdecode

/-! ### In a plan -/

theorem platform_plan (doc : Document) (settings : Settings) :
    (doc.plan settings).platform = doc.platform.resolve settings.host := by
  simp only [plan]

/-- What becomes of the platform `s` that was said for a document: in a plan it gives way to
the host if it is `auto`, while the document keeps it. -/
structure KeepsPlatform (doc : Document) (s : String) (settings : Settings) : Prop where
  auto : PlatformSetting.IsAuto s → (doc.plan settings).platform = settings.host
  named : ¬PlatformSetting.IsAuto s → (doc.plan settings).platform.name = s
  resolved : ¬PlatformSetting.IsAuto (doc.plan settings).platform.name
  saved : ∃ rest, doc.write.toList = "\x7b\n  \"platform\": ".toList ++
    (Json.writeString (PlatformSetting.keptText s) ++ ',' :: rest)
  ofText_keptText : PlatformSetting.ofText (PlatformSetting.keptText s) = doc.platform
  again : ∀ path again, parse doc.write path = .ok again → again.platform = doc.platform

/-- Where the host is not called `auto`, no plan is made for a platform of that name: `auto`
stands for the host in plans, and for itself in documents, however they are read and saved. -/
theorem platform_kept {s : String} {settings : Settings}
    (hhost : ¬PlatformSetting.IsAuto settings.host.name) :
    (∀ before text after v, AllSpaces before → Spells Json.deepest text v → AllSpaces after →
      lastOf? "platform" v.members = some (.string s) → ∀ path doc,
        parse (String.ofList (before ++ (text ++ after))) path = .ok doc →
          doc.platform = .ofText s) ∧
      ∀ doc : Document, doc.platform = .ofText s → doc.KeepsPlatform s settings := by
  refine ⟨fun before text after v hbefore hspelled hafter hsaid path doc hparse =>
    platform_of_spelled hbefore hspelled hafter hsaid hparse, fun doc hdoc => ?_⟩
  have htext : doc.platform.text = PlatformSetting.keptText s := by
    rw [hdoc, PlatformSetting.text_ofText]
  have hkept : PlatformSetting.ofText (PlatformSetting.keptText s) = doc.platform := by
    rw [hdoc, ← PlatformSetting.text_ofText, PlatformSetting.ofText_text_ofText]
  have hauto (h : PlatformSetting.IsAuto s) : (doc.plan settings).platform = settings.host := by
    rw [platform_plan, hdoc, PlatformSetting.ofText_of_isAuto h, PlatformSetting.resolve]
  have hnamed (h : ¬PlatformSetting.IsAuto s) : (doc.plan settings).platform.name = s := by
    rw [platform_plan, hdoc, PlatformSetting.ofText_of_not_isAuto h, PlatformSetting.resolve,
      Platform.name_ofStored]
  refine ⟨hauto, hnamed, ?_, htext ▸ doc.write_platform, hkept, fun path again hparse => ?_⟩
  · by_cases h : PlatformSetting.IsAuto s
    · rw [hauto h]
      exact hhost
    · rw [hnamed h]
      exact h
  · rw [platform_of_read_write (parse_eq_ok_iff.1 hparse), htext, hkept]

/-- A known name that begins with a capital letter is not the known platform, and is kept as
it is. -/
theorem platform_kept_capital :
    ¬PlatformSetting.IsAuto appSettings.host.name ∧
      ∃ doc, parse "\x7b\"platform\": \"Linux\"\x7d" ⟨"a.json"⟩ = .ok doc ∧
        (doc.plan appSettings).platform.name = "Linux" ∧
        (doc.plan appSettings).platform ≠ appSettings.host ∧
        parse doc.write ⟨"b.json"⟩ = .ok doc := by
  have hhost : ¬PlatformSetting.IsAuto appSettings.host.name := by decide
  have hnot : ¬PlatformSetting.IsAuto "Linux" := by decide
  have hkept := (platform_kept (s := "Linux") hhost).2
    {Document.empty with platform := .fixed (.other "Linux")} (by decide)
  have hname := hkept.named hnot
  refine ⟨hhost, _, parse_of_toOption (by decide +kernel) _, hname, fun heq => ?_, ?_⟩
  · rw [heq] at hname
    exact absurd hname (by decide)
  · exact parse_of_toOption (by decide +kernel) _

end Document

end BuildConductor
