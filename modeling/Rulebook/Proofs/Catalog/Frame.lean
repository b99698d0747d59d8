import Rulebook.Proofs.Catalog.Fetching
import Rulebook.Proofs.FileTree.Below

/-!
What fetching depends on. The rules of a language, by a key without a slash, depend on what lies
below the directory of rules alone: a tree that has come from another one by making directories and
writing files elsewhere gives the same answer.
-/

namespace Rulebook.Catalog

open Rulebook.FileTree (Changes GoesBelow SameBelow goesBelow_join goesBelow_join_join)
open Rulebook.Text.Utf8 (encode)

/-! ## Paths of a rule -/

theorem manifestName_eq : manifestName = ⟨manifestFile.bytes⟩ := by decide

theorem documentationName_eq : documentationName = ⟨documentationFile.bytes⟩ := by decide

section Paths

variable (rules : Path) (language : String) (entry : FileName)

theorem goesBelow_shared :
    GoesBelow rules (RulePlace.ofName rules language entry.bytes).shared := by
  show GoesBelow rules ((rules.join ⟨entry.bytes⟩).join manifestName)
  rw [manifestName_eq]
  exact (goesBelow_join rules entry).join_name _

variable {language} (h : Path.slash ∉ encode language)

include h

theorem goesBelow_manifest :
    GoesBelow rules (RulePlace.ofName rules language entry.bytes).manifest := by
  show GoesBelow rules (((rules.join ⟨entry.bytes⟩).join ⟨encode language⟩).join manifestName)
  rw [manifestName_eq]
  exact (goesBelow_join_join rules entry h).join_name _

theorem goesBelow_documentation :
    GoesBelow rules (RulePlace.ofName rules language entry.bytes).documentation := by
  show GoesBelow rules (((rules.join ⟨entry.bytes⟩).join ⟨encode language⟩).join documentationName)
  rw [documentationName_eq]
  exact (goesBelow_join_join rules entry h).join_name _

end Paths

/-! ## Trees with the same rules -/

section Same

variable {t t' : FileTree} {rules p : Path} {dir : Location} {made written : Location → Prop}
  {language : String} (hdir : t.find rules = .ok (dir, .directory))
  (hchanges : Changes made written t t') (hsame : SameBelow dir t t')

include hdir hchanges hsame

theorem directoryNames_eq : directoryNames t' rules = directoryNames t rules := by
  have hdir' := hchanges.find_directory hdir
  -- Ascending lists are equal if they have the same members.
  refine List.Pairwise.eq_of_mem_iff (directoryNames_ascending t' rules)
    (directoryNames_ascending t rules) fun name => ?_
  rw [mem_directoryNames t' rules hdir', mem_directoryNames t rules hdir]
  refine exists_congr fun entry => and_congr_right ?_
  rintro rfl
  have hfind := FileTree.find_sameBelow (goesBelow_join rules entry) hdir hchanges hsame
  rw [hsame [entry], FileTree.isDirectory, FileTree.isDirectory, hfind]

theorem text_eq (hp : GoesBelow rules p) : t'.text p = t.text p := by
  unfold FileTree.text FileTree.read
  rw [FileTree.find_sameBelow hp hdir hchanges hsame]

variable (h : Path.slash ∉ encode language)

include h

theorem isFile_manifest_eq (entry : FileName) :
    t'.isFile (RulePlace.ofName rules language entry.bytes).manifest =
      t.isFile (RulePlace.ofName rules language entry.bytes).manifest := by
  unfold FileTree.isFile
  rw [FileTree.find_sameBelow (goesBelow_manifest rules entry h) hdir hchanges hsame]

theorem ruleAt_eq (entry : FileName) :
    ruleAt t' (RulePlace.ofName rules language entry.bytes) =
      ruleAt t (RulePlace.ofName rules language entry.bytes) := by
  unfold ruleAt sharedAt ownAt optionalText requiredText
  rw [text_eq hdir hchanges hsame (goesBelow_shared rules language entry),
    text_eq hdir hchanges hsame (goesBelow_manifest rules entry h),
    text_eq hdir hchanges hsame (goesBelow_documentation rules entry h)]

/-- A directory of rules answers as it did. -/
theorem answerIn_eq : answerIn t' rules language = answerIn t rules language := by
  have hrules : t.isDirectory rules = true := FileTree.isDirectory_iff.2 ⟨dir, hdir⟩
  have hentry {name : List UInt8} (hname : name ∈ directoryNames t rules) :
      ∃ entry : FileName, entry.bytes = name := by
    obtain ⟨entry, hentry, -⟩ := (mem_directoryNames t rules hdir name).1 hname
    exact ⟨entry, hentry⟩
  have hplaces : rulePlaces t' rules language = rulePlaces t rules language := by
    unfold rulePlaces
    rw [directoryNames_eq hdir hchanges hsame]
    refine List.filter_congr fun place hplace => ?_
    obtain ⟨name, hname, rfl⟩ := List.mem_map.1 hplace
    obtain ⟨entry, rfl⟩ := hentry hname
    exact isFile_manifest_eq hdir hchanges hsame h entry
  unfold answerIn
  rw [if_pos hrules, if_pos (hchanges.isDirectory hrules), hplaces]
  refine mapM_congr fun place hplace => ?_
  obtain ⟨name, hname, rfl⟩ := List.mem_map.1 (List.mem_filter.1 hplace).1
  obtain ⟨entry, rfl⟩ := hentry hname
  exact ruleAt_eq hdir hchanges hsame h entry

end Same

end Rulebook.Catalog
