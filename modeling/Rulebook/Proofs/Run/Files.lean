import Mathlib.Data.List.Nodup
import Rulebook.Proofs.Manifest.Contents
import Rulebook.Proofs.Path
import Rulebook.Proofs.Run.Plan
import Rulebook.Proofs.Text.Utf8

/-!
Where the files of a language go. Each has a name of its own in the directory of the language:
whether it is documentation or data, the repository or the profile, can be told from the end of its
name, and whose it is from the beginning.
-/

namespace Rulebook

open Rulebook.Text.Utf8 (encode encode_injective)

/-! ## Names of canonical rules -/

theorem RawRule.name_of_normalize {raw : RawRule} {language : String} {rule : Rule}
    (h : raw.normalize language = .ok rule) : rule.name = raw.key := by
  obtain ⟨fields, -, hread⟩ := Manifest.readFrom_of_ruleOf (ruleOf_of_normalize h)
  exact hread.name.symm

theorem RawRule.names_of_normalizeAll {raws : List RawRule} {language : String} {rules : List Rule}
    (h : RawRule.normalizeAll language raws = .ok rules) :
    rules.map (·.name) = raws.map (·.key) := by
  symm
  apply map_eq_of_forall₂ (normalizeAll_eq_ok.1 h)
  exact fun raw rule hrule => (name_of_normalize hrule).symm

/-! ## Bytes of names -/

@[simp] theorem encode_append (s t : String) : encode (s ++ t) = encode s ++ encode t := by
  unfold Text.Utf8.encode
  rw [String.toList_append, List.flatMap_append]

theorem isPlain_append {start ending : List UInt8} (hstart : Path.slash ∉ start)
    (hending : Path.slash ∉ ending) (hlength : 2 < ending.length) :
    Path.IsPlain (start ++ ending) := by
  -- It is longer than the names that are not plain.
  have hne {bytes : List UInt8} (h : bytes.length ≤ 2) : start ++ ending ≠ bytes := by
    rintro rfl
    rw [List.length_append] at h
    omega
  exact ⟨hne (by decide), fun h => (List.mem_append.1 h).elim hstart hending, hne (by decide),
    hne (by decide)⟩

namespace Run

def Request.fileNames (request : Request) (language : String) (rules : List Rule) : List String :=
  match request.mode with
  | .registrars settings =>
    let key := (settings.options language).repositoryKey
    [Registrar.repositoryClassName key ++ ".java", Registrar.profileClassName key ++ ".java"]
  | .ruleData => rules.flatMap fun rule => [rule.name ++ ".html", rule.name ++ ".json"]

theorem paths_filesOf (request : Request) (language : String) (rules : List Rule) :
    (request.filesOf language rules).map (·.1) =
      (request.fileNames language rules).map fun name =>
        (request.directory language).join (.ofText name) := by
  unfold Request.filesOf Request.fileNames
  cases request.mode with
  | registrars settings => rfl
  | ruleData =>
    simp only [List.map_flatMap, List.map_cons, List.map_nil]

/-- What keeps the files of a language in its directory: the names that theirs begin with name
nothing else. -/
structure Request.NamesFiles (request : Request) (language : String) (rules : List Rule) :
    Prop where
  repositoryKey : ∀ settings, request.mode = .registrars settings →
    Path.slash ∉ encode (settings.options language).repositoryKey
  names : ∀ rule ∈ rules, Path.slash ∉ encode rule.name
  distinct : (rules.map (·.name)).Nodup

theorem isPlain_fileNames {request : Request} {language : String} {rules : List Rule}
    (h : request.NamesFiles language rules) :
    ∀ name ∈ request.fileNames language rules, Path.IsPlain (encode name) := by
  intro name hname
  unfold Request.fileNames at hname
  split at hname
  · next settings hmode =>
    have hkey := h.repositoryKey settings hmode
    simp only [Registrar.repositoryClassName, Registrar.profileClassName, List.mem_cons,
      List.not_mem_nil, or_false, String.append_assoc] at hname
    rcases hname with rfl | rfl
    · rw [encode_append]
      exact isPlain_append hkey (by decide) (by decide)
    · rw [encode_append]
      exact isPlain_append hkey (by decide) (by decide)
  · obtain ⟨rule, hrule, hname⟩ := List.mem_flatMap.1 hname
    simp only [List.mem_cons, List.not_mem_nil, or_false] at hname
    rcases hname with rfl | rfl
    · rw [encode_append]
      exact isPlain_append (h.names rule hrule) (by decide) (by decide)
    · rw [encode_append]
      exact isPlain_append (h.names rule hrule) (by decide) (by decide)

theorem append_inj_of_length {s t ending other : String}
    (hlength : ending.toList.length = other.toList.length) (h : s ++ ending = t ++ other) :
    s = t ∧ ending = other := by
  have hlist := congrArg String.toList h
  rw [String.toList_append, String.toList_append] at hlist
  obtain ⟨hs, hending⟩ := List.append_inj' hlist hlength
  exact ⟨String.toList_inj.1 hs, String.toList_inj.1 hending⟩

theorem nodup_fileNames {request : Request} {language : String} {rules : List Rule}
    (h : request.NamesFiles language rules) : (request.fileNames language rules).Nodup := by
  unfold Request.fileNames
  split
  · next settings hmode =>
    simp only [Registrar.repositoryClassName, Registrar.profileClassName, String.append_assoc]
    refine List.nodup_cons.2 ⟨fun hmem => ?_, List.nodup_singleton _⟩
    -- Both classes begin with the same key.
    have hlist := congrArg String.toList (List.mem_singleton.1 hmem)
    simp only [String.toList_append, List.append_cancel_left_eq] at hlist
    exact absurd hlist (by decide)
  · -- The endings are equally long, so the beginnings of equal names are equal.
    refine List.nodup_flatMap.2 ⟨fun rule _ => ?_, (List.pairwise_map.1 h.distinct).imp ?_⟩
    · refine List.nodup_cons.2 ⟨fun hmem => ?_, List.nodup_singleton _⟩
      have hending := (append_inj_of_length (by decide) (List.mem_singleton.1 hmem)).2
      exact absurd hending (by decide)
    · intro rule other hne name hname hother
      simp only [List.mem_cons, List.not_mem_nil, or_false] at hname hother
      rcases hname with rfl | rfl <;> rcases hother with heq | heq <;>
        exact hne (append_inj_of_length (by decide) heq).1

/-- The files of a language have paths of their own, each a name in its directory. -/
theorem paths_filesOf_distinct {request : Request} {language : String} {rules : List Rule}
    (h : request.NamesFiles language rules) :
    ((request.filesOf language rules).map (·.1)).Nodup ∧
      ∀ file ∈ request.filesOf language rules, ∃ name, Path.IsPlain name ∧
        file.1 = (request.directory language).join ⟨name⟩ := by
  constructor
  · rw [paths_filesOf]
    refine (nodup_fileNames h).map_on fun name hname other hother heq => ?_
    exact encode_injective
      ((isPlain_fileNames h name hname).join_inj (isPlain_fileNames h other hother) heq).2
  · intro file hfile
    have hpath : file.1 ∈ (request.filesOf language rules).map (·.1) := List.mem_map_of_mem hfile
    rw [paths_filesOf, List.mem_map] at hpath
    obtain ⟨name, hname, heq⟩ := hpath
    exact ⟨encode name, isPlain_fileNames h name hname, heq.symm⟩

end Run

end Rulebook
