import LogFilter.Field
import LogFilter.Proofs.Text.Longest
import LogFilter.Proofs.Text.Lowercase

/-!
# Fields and the expressions that read them

The arrays that hold a field are named for its kind and its data type, and the data type may be any text,
even one that looks like a part of an expression. Still the name of the arrays gives back the kind and the
lowercased data type, and the expression that reads a column gives back these and the column.
-/

namespace LogFilter

open Text

private theorem FieldKind.name_inj {kind kind' : FieldKind} (h : kind.name = kind'.name) :
    kind = kind' := by
  have hread := kind.ofName?_name
  rw [h, ofName?_name] at hread
  exact (Option.some.inj hread).symm

/-- The name of a kind is one word of letters. -/
theorem FieldKind.underscore_not_mem_name (kind : FieldKind) : '_' ∉ kind.name.toList := by
  cases kind <;> decide

namespace Field

private theorem toList_bucket (field : Field) :
    field.bucket.toList = field.kind.name.toList ++ '_' :: (lowercase field.dataType).toList := by
  simp [bucket]

/-- The name of the arrays of a field has no capital. -/
theorem isUpper_of_mem_bucket {field : Field} {c : Char} (h : c ∈ field.bucket.toList) :
    c.isUpper = false := by
  have hname : ∀ c ∈ field.kind.name.toList, c.isUpper = false := by
    apply forall_isUpper_eq_false
    cases field.kind <;> decide
  rw [toList_bucket, List.mem_append, List.mem_cons] at h
  rcases h with h | rfl | h
  · exact hname c h
  · decide
  · exact isUpper_of_mem_lowercase h

variable {f g : Field} {c d : String}

/-- The name of the arrays gives back the kind and the lowercased data type. -/
theorem bucket_eq_iff :
    f.bucket = g.bucket ↔ f.kind = g.kind ∧ lowercase f.dataType = lowercase g.dataType := by
  constructor
  · intro h
    have hlist := congrArg String.toList h
    rw [toList_bucket, toList_bucket] at hlist
    obtain ⟨hkind, htype⟩ := cut_unique f.kind.underscore_not_mem_name
      g.kind.underscore_not_mem_name hlist
    exact ⟨FieldKind.name_inj (String.toList_inj.mp hkind), String.toList_inj.mp htype⟩
  · rintro ⟨hkind, htype⟩
    rw [bucket, bucket, hkind, htype]

/-- The expression has a capital, which no name of arrays has. -/
theorem toList_lookup (field : Field) (column : String) :
    (field.lookup column).toList = (field.bucket.toList ++ "_value[index".toList) ++
      'O' :: ("f(".toList ++ (field.bucket.toList ++ ("_key, '".toList ++
        (column.toList ++ "')]".toList)))) := by
  simp [lookup]

/-- The expression gives back the name of the arrays and the column. -/
theorem lookup_eq_iff : f.lookup c = g.lookup d ↔ f.bucket = g.bucket ∧ c = d := by
  have hcapital (field : Field) : 'O' ∉ field.bucket.toList ++ "_value[index".toList := by
    intro hmem
    rcases List.mem_append.mp hmem with hmem | hmem
    · have hupper := isUpper_of_mem_bucket hmem
      revert hupper
      decide
    · revert hmem
      decide
  constructor
  · intro h
    have hlist := congrArg String.toList h
    rw [toList_lookup, toList_lookup] at hlist
    -- The texts before the first capital are as long as the names of the arrays.
    obtain ⟨hfront, hback⟩ := cut_unique (hcapital f) (hcapital g) hlist
    have hbucket := List.append_cancel_right hfront
    rw [hbucket] at hback
    have hcolumn := List.append_cancel_right (List.append_cancel_left
      (List.append_cancel_left (List.append_cancel_left hback)))
    exact ⟨String.toList_inj.mp hbucket, String.toList_inj.mp hcolumn⟩
  · rintro ⟨hbucket, rfl⟩
    rw [lookup, lookup, hbucket]

/-- Two fields have the same arrays exactly when they are of one kind and their data types are the same
after lowercasing. The same expression reads a column of the one and a column of the other exactly when,
besides, the columns are the same; the columns may be any texts. -/
theorem never_alias (f g : Field) :
    (f.bucket = g.bucket ↔ f.kind = g.kind ∧ lowercase f.dataType = lowercase g.dataType) ∧
    ∀ c d, f.lookup c = g.lookup d ↔
      f.kind = g.kind ∧ lowercase f.dataType = lowercase g.dataType ∧ c = d := by
  refine ⟨bucket_eq_iff, ?_⟩
  intro c d
  rw [lookup_eq_iff, bucket_eq_iff, and_assoc]

end Field

end LogFilter
