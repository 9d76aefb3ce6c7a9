/-
  Caller stubs — the path of a file in a directory.

  * `FilePath.IsName`: a text that is one segment of a path;
  * `FilePath.ofText_joinPath`: joining a name to a directory adds it behind
    the segments of the directory, however the directory is written.
-/
import CallerStubs.FileTree
import CallerStubs.Proofs.Text.Split

namespace CallerStubs.FilePath

/-- The name is one segment of a path. -/
structure IsName (name : String) : Prop where
  nonempty : name ≠ ""
  no_slash : '/' ∉ name.toList

@[ext] theorem ext {p q : FilePath} (habsolute : p.absolute = q.absolute)
    (hsegments : p.segments = q.segments) (hend : p.endsWithSlash = q.endsWithSlash) : p = q := by
  cases p; cases q; simp_all

/-! ## Parts of a path's text -/

theorem segments_ofText_append_slash (a b : String) :
    (ofText (a ++ "/" ++ b)).segments = (ofText a).segments ++ (ofText b).segments := by
  simp only [ofText, ← List.filter_append]
  exact congrArg _ (Text.splitText_append_separator '/' a b)

theorem absolute_ofText_append {a : String} (h : a ≠ "") (b : String) :
    (ofText (a ++ b)).absolute = (ofText a).absolute := by
  obtain ⟨c, cs, hc⟩ := List.exists_cons_of_ne_nil (show a.toList ≠ [] by simpa using h)
  simp [ofText, hc]

variable {directory name : String}

theorem IsName.endsWithSlash (h : IsName name) (a : String) :
    (ofText (a ++ name)).endsWithSlash = false := by
  have hne : name.toList ≠ [] := by simpa using h.nonempty
  have hlast : (a.toList ++ name.toList).getLast? ≠ some '/' := by
    rw [List.getLast?_append, List.getLast?_eq_some_getLast hne, Option.some_or]
    intro hslash
    exact h.no_slash (Option.some.inj hslash ▸ List.getLast_mem hne)
  simpa [ofText] using hlast

theorem IsName.ofText_eq (h : IsName name) : ofText name = ⟨false, [name], false⟩ := by
  have hend := h.endsWithSlash ""
  rw [String.empty_append] at hend
  have hsplit : Text.splitText '/' name = [name] :=
    (Text.splitText_eq_iff (by simp)).2 ⟨by simpa using h.no_slash, by simp⟩
  have habsolute : name.toList.head? ≠ some '/' :=
    fun hhead => h.no_slash (List.mem_of_head? hhead)
  ext1
  · simp [ofText, habsolute]
  · simp [ofText, hsplit, h.nonempty]
  · exact hend

/-! ## Joined paths -/

/-- **The path of a file in a directory** has the name of the file behind the
    segments of the directory. -/
theorem ofText_joinPath (h : IsName name) :
    ofText (joinPath directory name) =
      ⟨(ofText directory).absolute, (ofText directory).segments ++ [name], false⟩ := by
  have hname := h.ofText_eq
  -- the name stands behind a slash, which ends the directory or is put between
  have hjoined (base : String) : (ofText (base ++ "/" ++ name)).segments =
      (ofText base).segments ++ [name] := by
    rw [segments_ofText_append_slash, hname]
  unfold joinPath
  split_ifs with hdir hslash
  · rcases hdir with rfl | hhead
    · exact hname
    · exact absurd (List.mem_of_head? hhead) h.no_slash
  · obtain ⟨cs, hcs⟩ := List.getLast?_eq_some_iff.1 (beq_iff_eq.1 hslash)
    have hbase : directory = String.ofList cs ++ "/" := by
      rw [← String.toList_inj, hcs]; simp
    have hsegments : (ofText directory).segments = (ofText (String.ofList cs)).segments := by
      have := segments_ofText_append_slash (String.ofList cs) ""
      rwa [String.append_empty, ← hbase, show (ofText "").segments = [] from rfl,
        List.append_nil] at this
    ext1
    · exact absolute_ofText_append (not_or.1 hdir).1 name
    · rw [hsegments, ← hjoined, ← hbase]
    · exact h.endsWithSlash directory
  · ext1
    · rw [String.append_assoc]
      exact absolute_ofText_append (not_or.1 hdir).1 _
    · exact hjoined directory
    · exact h.endsWithSlash (directory ++ "/")

end CallerStubs.FilePath
