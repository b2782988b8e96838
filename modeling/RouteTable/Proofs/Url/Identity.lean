import Mathlib.Data.Bool.AllAny
import RouteTable.Proofs.Pass.Hidden
import RouteTable.Proofs.Text.Percent

/-!
The URLs of files tell the files apart, also from the URLs that load them later: the path of a file
is read back from its URL, and no name of a file brings a question mark into it.
-/

namespace RouteTable

open Script Text

/-- Whether a path is absolute and made of names that neither stay in a directory nor leave it. -/
def Path.IsNormal (path : Path) : Prop :=
  ∃ names : List FileName, path = .ofNames names ∧
    ∀ name ∈ names, Path.isName name ∧ name ≠ FileSystem.upName ∧ Path.slash ∉ name

theorem Path.IsNormal.isAbsolute {path : Path} (h : path.IsNormal) : path.isAbsolute := by
  obtain ⟨names, rfl, -⟩ := h
  exact FileSystem.isAbsolute_path names

theorem Path.IsNormal.eq_ofNames {path : Path} (h : path.IsNormal) :
    .ofNames path.names = path := by
  obtain ⟨names, rfl, hnames⟩ := h
  rw [FileSystem.names_ofNames fun name hmem => ⟨(hnames name hmem).1, (hnames name hmem).2.2⟩]

namespace Url

variable {escaped : List Char}

/-- The path of a URL for names, with some characters of them escaped. -/
def pathEscaping (escaped : List Char) : List FileName → List Char
  | [] => ['/']
  | names => names.flatMap fun name => '/' :: Percent.encode escaped name

/-- The URL of an absolute path, with some characters of its names escaped. -/
def ofFileEscaping? (escaped : List Char) (path : Path) : Option Url :=
  if path.isAbsolute then
    some ⟨"file", some "", String.ofList (pathEscaping escaped path.names), none, none⟩
  else none

theorem ofFile?_eq_ofFileEscaping? : ofFile? = ofFileEscaping? escapedInName :=
  rfl

theorem exists_ofFileEscaping? (escaped : List Char) {path : Path} (h : path.IsNormal) :
    ∃ url, ofFileEscaping? escaped path = some url :=
  ⟨_, if_pos h.isAbsolute⟩

theorem decode_pathEscaping (hpercent : '%' ∈ escaped) (names : List FileName) :
    Percent.decode (pathEscaping escaped names) = (Path.ofNames names).bytes := by
  have hslash : Utf8.encode ['/'] = [Path.slash] := by decide
  have hnames (names : List FileName) :
      Percent.decode (names.flatMap fun name => '/' :: Percent.encode escaped name) =
        names.flatMap (Path.slash :: ·) := by
    induction names with
    | nil => rfl
    | cons name rest ih =>
      rw [List.flatMap_cons, List.cons_append, Percent.decode_cons (by decide), hslash,
        Percent.decode_encode_append hpercent, ih]
      rfl
  cases names with
  | nil =>
    rw [pathEscaping, Percent.decode_cons (by decide), hslash]
    rfl
  | cons name rest => exact hnames (name :: rest)

theorem toList_text_ofFileEscaping? {path : Path} {url : Url}
    (h : ofFileEscaping? escaped path = some url) :
    url.text.toList = "file://".toList ++ pathEscaping escaped path.names := by
  rw [ofFileEscaping?] at h
  split at h
  · cases h
    simp [text]
  · cases h

theorem text_deferred {path : Path} {url : Url} (h : ofFileEscaping? escaped path = some url) :
    url.deferred.text = url.text ++ "?async" := by
  rw [ofFileEscaping?] at h
  split at h
  · cases h
    apply String.toList_injective
    simp [text, deferred, withQuery]
  · cases h

/-- The path is read back from its URL. -/
theorem eq_of_text_eq (hpercent : '%' ∈ escaped) {p q : Path} {u v : Url} (hp : p.IsNormal)
    (hq : q.IsNormal) (hu : ofFileEscaping? escaped p = some u)
    (hv : ofFileEscaping? escaped q = some v) (h : u.text = v.text) : p = q := by
  have htext := congrArg String.toList h
  rw [toList_text_ofFileEscaping? hu, toList_text_ofFileEscaping? hv] at htext
  have hbytes := congrArg Percent.decode (List.append_cancel_left htext)
  rw [decode_pathEscaping hpercent, decode_pathEscaping hpercent, hp.eq_ofNames, hq.eq_ofNames]
    at hbytes
  exact congrArg Path.mk hbytes

/-- Whether a character starts no query and stands for itself in a string literal. -/
def IsBare (c : Char) : Prop :=
  c ≠ '?' ∧ c ≠ '"' ∧ c ≠ '\\' ∧ 0x20 ≤ c.toNat

instance (c : Char) : Decidable (IsBare c) :=
  inferInstanceAs (Decidable (_ ∧ _))

theorem isBare_of_mem_encode (hescaped : escapedInName ⊆ escaped) {bytes : List UInt8} {c : Char}
    (h : c ∈ Percent.encode escaped bytes) : IsBare c := by
  have hdigit : ∀ n < 16, IsBare (upperHexadecimalDigit n) := by decide
  rcases Percent.mem_encode h with rfl | ⟨n, hn, rfl⟩ | ⟨hkept, hprinting, -⟩
  · decide
  · exact hdigit n hn
  · have hname {d : Char} (hd : d ∈ escapedInName) : c ≠ d := fun heq =>
      hkept (hescaped (heq ▸ hd))
    exact ⟨hname (by decide), hname (by decide), hname (by decide), hprinting⟩

theorem isBare_of_mem_text (hescaped : escapedInName ⊆ escaped) {path : Path} {url : Url}
    (h : ofFileEscaping? escaped path = some url) {c : Char} (hc : c ∈ url.text.toList) :
    IsBare c := by
  have hfront : ∀ c ∈ "file://".toList, IsBare c := List.all_iff_forall_prop.1 (by decide)
  rw [toList_text_ofFileEscaping? h, List.mem_append] at hc
  rcases hc with hc | hc
  · exact hfront c hc
  · rw [pathEscaping.eq_def] at hc
    split at hc
    · obtain rfl := List.mem_singleton.1 hc
      decide
    · obtain ⟨name, -, hname⟩ := List.mem_flatMap.1 hc
      rcases List.mem_cons.1 hname with rfl | hname
      · decide
      · exact isBare_of_mem_encode hescaped hname

/-- Discovery finds files with normal paths. -/
theorem isNormal_of_findRoutes {config : Config} {fs : FileSystem} {files : List RouteModule}
    (hwf : fs.WellFormed) (hfiles : (findRoutes config fs).outcome = .ok files) :
    ∀ file ∈ files, file.absolute.IsNormal := by
  intro file hmem
  obtain ⟨base, _, _, names, -, hselects, -, hproper⟩ :=
    exists_selects_of_mem_findRoutes hwf hfiles hmem
  refine ⟨base ++ names, hselects.absolute_eq, fun name hname => ?_⟩
  exact ⟨(hproper name hname).isName, (hproper name hname).ne_up, (hproper name hname).slash_notMem⟩

/-- The URLs of files identify them, whatever else is escaped in names. Different normal paths, such
as those of the files that discovery finds, have different URLs. The URL for loading a file later is
its URL with a query behind, and is the URL of no file. A string literal of either only adds the
quotes. -/
theorem ofFile?_identifies :
    ofFile? = ofFileEscaping? escapedInName ∧
    (∀ config fs files, fs.WellFormed → (findRoutes config fs).outcome = .ok files →
      ∀ file ∈ files, file.absolute.IsNormal) ∧
    ∀ escaped, escapedInName ⊆ escaped →
      (∀ p q : Path, p.IsNormal → q.IsNormal → p ≠ q →
        ∃ u v, ofFileEscaping? escaped p = some u ∧ ofFileEscaping? escaped q = some v ∧
          u.text ≠ v.text ∧ u.deferred.text ≠ v.deferred.text) ∧
      ∀ p u, ofFileEscaping? escaped p = some u →
        u.deferred.text = u.text ++ "?async" ∧
        (∀ q v, ofFileEscaping? escaped q = some v → u.deferred.text ≠ v.text) ∧
        doubleQuoted u.text = "\"" ++ u.text ++ "\"" ∧
        doubleQuoted u.deferred.text = "\"" ++ u.deferred.text ++ "\"" := by
  refine ⟨ofFile?_eq_ofFileEscaping?, fun _ _ _ hwf hfiles => isNormal_of_findRoutes hwf hfiles,
    fun escaped hescaped => ⟨fun p q hp hq hne => ?_, fun p u hu => ⟨text_deferred hu, ?_, ?_, ?_⟩⟩⟩
  · have hpercent : '%' ∈ escaped := hescaped (by decide)
    obtain ⟨u, hu⟩ := exists_ofFileEscaping? escaped hp
    obtain ⟨v, hv⟩ := exists_ofFileEscaping? escaped hq
    have htext : u.text ≠ v.text := fun h => hne (eq_of_text_eq hpercent hp hq hu hv h)
    refine ⟨u, v, hu, hv, htext, fun h => htext ?_⟩
    rw [text_deferred hu, text_deferred hv] at h
    exact String.append_left_inj _ |>.1 h
  · intro q v hv heq
    have hquery : '?' ∈ v.text.toList := by
      rw [← heq, text_deferred hu]
      simp
    exact (isBare_of_mem_text hescaped hv hquery).1 rfl
  · exact doubleQuoted_of_plain fun c hc => (isBare_of_mem_text hescaped hu hc).2
  · apply doubleQuoted_of_plain
    have hquery : ∀ c ∈ "?async".toList, c ≠ '"' ∧ c ≠ '\\' ∧ 0x20 ≤ c.toNat :=
      List.all_iff_forall_prop.1 (by decide)
    intro c hc
    rw [text_deferred hu, String.toList_append, List.mem_append] at hc
    rcases hc with hc | hc
    · exact (isBare_of_mem_text hescaped hu hc).2
    · exact hquery c hc

section Queried

/-- A name with marks that have a meaning in a URL, and with a byte that no text has. -/
def queriedName : FileName :=
  FileName.ofString "a?async\"#% " ++ [0xFF]

/-- The marks in the name are escaped, so that no other file has one of its two URLs. -/
theorem ofFile?_identifies_queried :
    (routeFile.WellFormed ∧ ∃ files, (findRoutes rootConfig routeFile).outcome = .ok files ∧
      ∀ file ∈ files, file.absolute.IsNormal) ∧
    (Path.ofString "/a").IsNormal ∧ (Path.ofNames [queriedName]).IsNormal ∧
    ∃ u v, ofFile? (.ofString "/a") = some u ∧ ofFile? (.ofNames [queriedName]) = some v ∧
      u.deferred.text = "file:///a?async" ∧ v.text = "file:///a%3Fasync%22%23%25%20%FF" ∧
      u.text ≠ v.text ∧ u.deferred.text ≠ v.deferred.text ∧ u.deferred.text ≠ v.text ∧
      doubleQuoted v.deferred.text = "\"" ++ v.deferred.text ++ "\"" := by
  obtain ⟨heq, hnormal, hidentifies⟩ := ofFile?_identifies
  obtain ⟨hdiffer, hquoted⟩ := hidentifies escapedInName (List.Subset.refl _)
  rw [← heq] at hdiffer hquoted
  obtain ⟨files, hfiles⟩ := findRoutes_routeFile
  have hfirst : (Path.ofString "/a").IsNormal := ⟨[.ofString "a"], by decide, by decide⟩
  have hsecond : (Path.ofNames [queriedName]).IsNormal := ⟨_, rfl, by decide⟩
  obtain ⟨u, v, hu, hv, htext, hdeferred⟩ := hdiffer _ _ hfirst hsecond (by decide)
  have hshort : (ofFile? (.ofString "/a")).map text = some "file:///a" := by decide
  have hlong : (ofFile? (.ofNames [queriedName])).map text =
      some "file:///a%3Fasync%22%23%25%20%FF" := by decide
  have hutext : u.text = "file:///a" := by simpa [hu] using hshort
  have hvtext : v.text = "file:///a%3Fasync%22%23%25%20%FF" := by simpa [hv] using hlong
  obtain ⟨hlater, hnone, -⟩ := hquoted _ u hu
  rw [hutext] at hlater
  exact ⟨⟨wellFormed_routeFile, files, hfiles, hnormal _ _ _ wellFormed_routeFile hfiles⟩, hfirst,
    hsecond, u, v, hu, hv, hlater, hvtext, htext, hdeferred, hnone _ v hv, (hquoted _ v hv).2.2.2⟩

end Queried

end Url

end RouteTable
