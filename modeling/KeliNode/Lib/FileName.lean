import KeliNode.Lib.PosixPath

/-!
# File names and extensions

The last component of a path, as Rust's `Path` sees it: slashes and single dots at the end do not count, and a path
that ends with a double dot, or at the root, has no file name.  The extension is what follows the last dot of the
name, unless that dot is its first character.

| here | there |
|---|---|
| `lastComponent`, `parentPath` | `Path::file_name`, `Path::parent` |
| `fileStem`, `fileExtension`, `withExtension` | `Path::file_stem`, `Path::extension`, `Path::with_extension` |
-/

namespace Lib

/-- Without the slashes and the single dots a path ends with; the text is read backwards. -/
def skipEnd : Text → Text
  | '/' :: rest => skipEnd rest
  | '.' :: '/' :: rest => skipEnd ('/' :: rest)
  | rest => rest

/-- The file name, after what stands in front of it. -/
def lastComponent (path : Text) : Option (Text × Text) :=
  let backwards := skipEnd path.reverse
  let name := (backwards.takeWhile (· ≠ '/')).reverse
  if name = [] ∨ name = "." ∨ name = ".." then none else some ((backwards.dropWhile (· ≠ '/')).reverse, name)

def parentPath (path : Text) : Option Text :=
  match skipEnd path.reverse with
  | [] => none
  | backwards =>
    match skipEnd (backwards.dropWhile (· ≠ '/')) with
    | [] => some (if isAbsolute path then "/" else [])
    | dir => some dir.reverse

def fileStem (name : Text) : Text :=
  match name.reverse.dropWhile (· ≠ '.') with
  | [] => name
  | [_] => name
  | _ :: stem => stem.reverse

def fileExtension (path : Text) : Option Text :=
  (lastComponent path).bind fun (_, name) =>
    match name.reverse.dropWhile (· ≠ '.') with
    | [] => none
    | [_] => none
    | _ => some (name.reverse.takeWhile (· ≠ '.')).reverse

def withExtension (path extension : Text) : Text :=
  match lastComponent path with
  | none => path
  | some (dir, name) => dir ++ fileStem name ++ if extension = [] then [] else '.' :: extension

example : withExtension "/etc/keli/config.json" "json.tmp" = ("/etc/keli/config.json.tmp" : String).toList := by decide

example : withExtension "a/.profile/." "bak" = ("a/.profile.bak" : String).toList := by decide

example : parentPath "/config.json" = some ("/" : String).toList := by decide

section

variable {dir name stem extension new : Text}

theorem skipEnd_append (hname : IsName name) (rest : Text) : skipEnd (name.reverse ++ '/' :: rest) = name.reverse ++ '/' :: rest := by
  obtain ⟨front, last, rfl⟩ := List.eq_nil_or_concat name |>.resolve_left hname.nonempty
  have hlast : last ≠ '/' := fun h => hname.slashFree (by simp [h])
  rw [List.concat_eq_append, List.reverse_append, List.reverse_singleton, List.singleton_append, List.cons_append]
  by_cases hdot : last = '.'
  · subst hdot
    -- The character in front of the dot is of the name, so it is no slash.
    obtain rfl | ⟨front, second, rfl⟩ := List.eq_nil_or_concat front
    · exact absurd rfl hname.notDot
    · have hsecond : second ≠ '/' := fun h => hname.slashFree (by simp [h])
      simp only [List.concat_eq_append, List.reverse_append, List.reverse_singleton, List.cons_append]
      rw [skipEnd]
      · exact fun rest h => hlast (List.cons.inj h).1
      · exact fun rest h => hsecond (List.cons.inj (List.cons.inj h).2).1
  · rw [skipEnd]
    · exact fun rest h => hlast (List.cons.inj h).1
    · exact fun rest h => hdot (List.cons.inj h).1

theorem lastComponent_append (hname : IsName name) : lastComponent (dir ++ '/' :: name) = some (dir ++ ['/'], name) := by
  have hreverse : (dir ++ '/' :: name).reverse = name.reverse ++ '/' :: dir.reverse := by simp
  have hfree : ∀ c ∈ name.reverse, decide (c ≠ '/') = true := fun c hc =>
    decide_eq_true fun h => hname.slashFree (h ▸ List.mem_reverse.1 hc)
  rw [lastComponent, hreverse, skipEnd_append hname]
  simp only [List.takeWhile_append_of_pos hfree, List.dropWhile_append_of_pos hfree, List.takeWhile_cons, List.dropWhile_cons,
    ne_eq, not_true_eq_false, decide_false, Bool.false_eq_true, if_false, List.append_nil, List.reverse_reverse,
    List.reverse_cons]
  rw [if_neg]
  rintro (h | h | h)
  · exact hname.nonempty h
  · exact hname.notDot h
  · exact hname.notUp h

theorem fileStem_append (hstem : stem ≠ []) (hextension : '.' ∉ extension) : fileStem (stem ++ '.' :: extension) = stem := by
  have hreverse : (stem ++ '.' :: extension).reverse = extension.reverse ++ '.' :: stem.reverse := by simp
  have hfree : ∀ c ∈ extension.reverse, decide (c ≠ '.') = true := fun c hc =>
    decide_eq_true fun h => hextension (h ▸ List.mem_reverse.1 hc)
  rw [fileStem, hreverse, List.dropWhile_append_of_pos hfree, List.dropWhile_cons, if_neg (by simp)]
  obtain ⟨front, last, rfl⟩ := List.eq_nil_or_concat stem |>.resolve_left hstem
  simp

/-- A file name that ends with its own extension. -/
theorem isName_append (hstem : '/' ∉ stem) (hne : extension ≠ []) (hslash : '/' ∉ extension) (hdot : '.' ∉ extension) :
    IsName (stem ++ '.' :: extension) := by
  obtain ⟨front, last, rfl⟩ := List.eq_nil_or_concat extension |>.resolve_left hne
  have hlast : last ≠ '.' := fun h => hdot (by simp [h])
  have hend : ∀ text : Text, text.getLast? = some '.' → stem ++ '.' :: front.concat last ≠ text := by
    intro text htext heq
    rw [← heq, List.concat_eq_append] at htext
    simp only [List.getLast?_append, List.getLast?_cons, Option.getD_some, Option.some_or,
      Option.some.injEq] at htext
    exact hlast htext
  exact ⟨by simp, hend _ rfl, hend _ rfl, by simp only [List.mem_append, List.mem_cons, not_or]; exact ⟨hstem, by decide, hslash⟩⟩

/-- **A new extension** takes the place of the old one. -/
theorem withExtension_append (hstem : stem ≠ []) (hslash : '/' ∉ stem) (hne : extension ≠ []) (hextension : '/' ∉ extension)
    (hdot : '.' ∉ extension) (hnew : new ≠ []) :
    withExtension (dir ++ '/' :: (stem ++ '.' :: extension)) new = dir ++ '/' :: (stem ++ '.' :: new) := by
  rw [withExtension, lastComponent_append (isName_append hslash hne hextension hdot)]
  simp only [fileStem_append hstem hdot, if_neg hnew, List.append_assoc, List.cons_append,
    List.nil_append]

end

end Lib
