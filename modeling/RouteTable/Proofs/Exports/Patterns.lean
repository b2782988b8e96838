import RouteTable.Proofs.Exports.Passing

/-!
The patterns of declarations, as a grammar in which a pattern comes with the names that it binds, in
order. The readers of patterns read what the grammar derives: they record these names and no others,
and pass all of the pattern.
-/

namespace RouteTable.Exports

open Script

inductive Key : List Token → Prop where
  | plain {token : Token} (h : token.kind = .name ∨ token.kind = .string ∨ token.kind = .number) :
      Key [token]
  | computed {opener closer : Token} {inner : List Token} (hopener : opener.isPunctuator "[" = true)
      (hinner : Balanced inner) (hcloser : closer.isPunctuator "]" = true) :
      Key (opener :: inner ++ [closer])

inductive Form where
  | pattern
  /-- One property of an object pattern. -/
  | property
  /-- What follows the opening brace of an object pattern, with the closing one. -/
  | properties
  /-- What follows the opening bracket of an array pattern, with the closing one. -/
  | elements
deriving DecidableEq

/-- Tokens of a form, and the names that they bind, in order. -/
inductive Binds : Form → List Token → List String → Prop where
  | name {token : Token} (hname : token.isAnyName = true) : Binds .pattern [token] [token.value]
  | object {opener : Token} {tokens : List Token} {names : List String}
      (hopener : opener.isPunctuator "\x7b" = true) (h : Binds .properties tokens names) :
      Binds .pattern (opener :: tokens) names
  | array {opener : Token} {tokens : List Token} {names : List String}
      (hopener : opener.isPunctuator "[" = true) (h : Binds .elements tokens names) :
      Binds .pattern (opener :: tokens) names
  | shorthand {token : Token} {initial : List Token} (hname : token.isAnyName = true)
      (hinitial : Default initial) : Binds .property (token :: initial) [token.value]
  | keyed {colon : Token} {key pattern initial : List Token} {names : List String} (hkey : Key key)
      (hcolon : colon.isPunctuator ":" = true) (h : Binds .pattern pattern names)
      (hinitial : Default initial) :
      Binds .property (key ++ colon :: (pattern ++ initial)) names
  | rest {dots : Token} {pattern : List Token} {names : List String}
      (hdots : dots.isPunctuator "..." = true) (h : Binds .pattern pattern names) :
      Binds .property (dots :: pattern) names
  | noProperty {closer : Token} (hcloser : closer.isPunctuator "\x7d" = true) :
      Binds .properties [closer] []
  | lastProperty {closer : Token} {tokens : List Token} {names : List String}
      (h : Binds .property tokens names) (hcloser : closer.isPunctuator "\x7d" = true) :
      Binds .properties (tokens ++ [closer]) names
  | moreProperties {comma : Token} {first others : List Token} {names more : List String}
      (h : Binds .property first names) (hcomma : comma.isPunctuator "," = true)
      (hothers : Binds .properties others more) :
      Binds .properties (first ++ comma :: others) (names ++ more)
  | noElement {closer : Token} (hcloser : closer.isPunctuator "]" = true) :
      Binds .elements [closer] []
  | hole {comma : Token} {others : List Token} {names : List String}
      (hcomma : comma.isPunctuator "," = true) (h : Binds .elements others names) :
      Binds .elements (comma :: others) names
  | lastElement {closer : Token} {dots pattern initial : List Token} {names : List String}
      (hdots : Optionally "..." (· = []) dots) (h : Binds .pattern pattern names)
      (hinitial : Default initial) (hcloser : closer.isPunctuator "]" = true) :
      Binds .elements (dots ++ (pattern ++ (initial ++ [closer]))) names
  | moreElements {comma : Token} {dots pattern initial others : List Token}
      {names more : List String} (hdots : Optionally "..." (· = []) dots)
      (h : Binds .pattern pattern names) (hinitial : Default initial)
      (hcomma : comma.isPunctuator "," = true) (hothers : Binds .elements others more) :
      Binds .elements (dots ++ (pattern ++ (initial ++ comma :: others))) (names ++ more)

/-- A reader succeeds, records some names, and gets to a place. -/
def Reads {place : Place} (scan : Scan place.Beyond) (names : List String) (last : Place) : Prop :=
  ∃ h : last.remaining < place.remaining, scan = ⟨names, .ok ⟨last, h⟩⟩

section Reads

variable {place start last middle : Place} {names more : List String}

/-- A reader that goes on with another one. -/
theorem Reads.bind {scan : Scan start.Beyond} (h : Reads scan names middle)
    {next : start.Beyond → Scan place.Beyond}
    (hnext : ∀ hmiddle, Reads (next ⟨middle, hmiddle⟩) more last) :
    Reads (scan >>= next) (names ++ more) last := by
  obtain ⟨hmiddle, rfl⟩ := h
  obtain ⟨hlast, hread⟩ := hnext hmiddle
  refine ⟨hlast, ?_⟩
  rw [Reporting.bind_ok, hread]

theorem reads_pure (h : last.remaining < place.remaining) :
    Reads (pure ⟨last, h⟩ : Scan place.Beyond) [] last :=
  ⟨h, rfl⟩

/-- A reader that passes more behind another one. -/
theorem Reads.bind_pure {scan : Scan start.Beyond} (h : Reads scan names middle)
    {next : start.Beyond → Scan place.Beyond}
    (hnext : ∀ hmiddle, Reads (next ⟨middle, hmiddle⟩) [] last) :
    Reads (scan >>= next) names last := by
  have hread := h.bind hnext
  rwa [List.append_nil] at hread

end Reads

section Readers

variable {previous : Option Token} {token : Token} {tokens rest : List Token}
  {place middle last : Place} {names more : List String}

theorem reads_name (hname : token.isAnyName = true) :
    Reads (bindingTarget ⟨previous, token :: rest⟩) [token.value] ⟨some token, rest⟩ :=
  ⟨_, bindingTarget_name rfl hname⟩

theorem isAnyName_of_isPunctuator {text : String} (h : token.isPunctuator text = true) :
    token.isAnyName = false := by
  simp [Token.isAnyName, (kind_of_isPunctuator h).1]

theorem isPunctuator_eq_false {text : String} (h : token.isPunctuator text = true)
    (other : String) (hne : text ≠ other) : token.isPunctuator other = false := by
  obtain ⟨hkind, rfl⟩ := kind_of_isPunctuator h
  simp [Token.isPunctuator, hne]

theorem reads_object (hopener : token.isPunctuator "\x7b" = true)
    (h : Reads (objectBindings ⟨some token, rest⟩) names last) :
    Reads (bindingTarget ⟨previous, token :: rest⟩) names last := by
  rw [bindingTarget]
  split
  · rename_i hnone
    cases hnone
  · rename_i found hfound
    cases hfound
    rw [if_neg (by simp [isAnyName_of_isPunctuator hopener]), if_pos hopener]
    exact h.bind_pure fun hlast => reads_pure _

theorem reads_array (hopener : token.isPunctuator "[" = true)
    (h : Reads (arrayBindings ⟨some token, rest⟩) names last) :
    Reads (bindingTarget ⟨previous, token :: rest⟩) names last := by
  rw [bindingTarget]
  split
  · rename_i hnone
    cases hnone
  · rename_i found hfound
    cases hfound
    rw [if_neg (by simp [isAnyName_of_isPunctuator hopener]),
      if_neg (by simp [isPunctuator_eq_false hopener "\x7b" (by decide)]), if_pos hopener]
    exact h.bind_pure fun hlast => reads_pure _

theorem reads_noProperty (hcloser : place.isPunctuator "\x7d" = true) :
    Reads (objectBindings place) [] place.next := by
  rw [objectBindings, dif_pos hcloser]
  exact reads_pure _

theorem reads_lastProperty (hstart : place.isPunctuator "\x7d" = false)
    (h : Reads (objectProperty place) names middle)
    (hcloser : middle.isPunctuator "\x7d" = true) (hcomma : middle.isPunctuator "," = false) :
    Reads (objectBindings place) names middle.next := by
  rw [objectBindings, dif_neg (by simp [hstart])]
  apply h.bind_pure
  intro hmiddle
  simp only [hcomma, hcloser, Bool.false_eq_true, if_false, if_true]
  exact reads_pure _

theorem reads_moreProperties (hstart : place.isPunctuator "\x7d" = false)
    (h : Reads (objectProperty place) names middle) (hcomma : middle.isPunctuator "," = true)
    (hothers : Reads (objectBindings middle.next) more last) :
    Reads (objectBindings place) (names ++ more) last := by
  rw [objectBindings, dif_neg (by simp [hstart])]
  apply h.bind
  intro hmiddle
  simp only [hcomma, if_true]
  exact hothers.bind_pure fun hlast => reads_pure _

theorem reads_noElement (hcloser : place.isPunctuator "]" = true) :
    Reads (arrayBindings place) [] place.next := by
  rw [arrayBindings, dif_pos hcloser]
  exact reads_pure _

theorem reads_hole (hstart : place.isPunctuator "]" = false)
    (hcomma : place.isPunctuator "," = true) (h : Reads (arrayBindings place.next) names last) :
    Reads (arrayBindings place) names last := by
  rw [arrayBindings, dif_neg (by simp [hstart]), dif_pos hcomma]
  exact h.bind_pure fun hlast => reads_pure _

def elementStart (place : Place) : Place :=
  if place.isPunctuator "..." then place.next else place

theorem reads_lastElement (hstart : place.isPunctuator "]" = false)
    (hhole : place.isPunctuator "," = false)
    (h : Reads (bindingTarget (elementStart place)) names middle)
    (hcloser : (passOptionalDefault middle).isPunctuator "]" = true)
    (hcomma : (passOptionalDefault middle).isPunctuator "," = false) :
    Reads (arrayBindings place) names (passOptionalDefault middle).next := by
  rw [arrayBindings, dif_neg (by simp [hstart]), dif_neg (by simp [hhole])]
  extract_lets element
  have helement : elementStart place = element.1 := by
    unfold elementStart element
    split <;> rfl
  rw [helement] at h
  apply h.bind_pure
  intro hmiddle
  simp only [hcomma, hcloser, Bool.false_eq_true, if_false, if_true]
  exact reads_pure _

theorem reads_moreElements (hstart : place.isPunctuator "]" = false)
    (hhole : place.isPunctuator "," = false)
    (h : Reads (bindingTarget (elementStart place)) names middle)
    (hcomma : (passOptionalDefault middle).isPunctuator "," = true)
    (hothers : Reads (arrayBindings (passOptionalDefault middle).next) more last) :
    Reads (arrayBindings place) (names ++ more) last := by
  rw [arrayBindings, dif_neg (by simp [hstart]), dif_neg (by simp [hhole])]
  extract_lets element
  have helement : elementStart place = element.1 := by
    unfold elementStart element
    split <;> rfl
  rw [helement] at h
  apply h.bind
  intro hmiddle
  simp only [hcomma, if_true]
  exact hothers.bind_pure fun hlast => reads_pure _

theorem reads_key {key : List Token} (hkey : Key key) :
    Reads (passKey ⟨previous, key ++ rest⟩) [] ⟨lastOf previous key, rest⟩ := by
  cases hkey with
  | @plain token h =>
    have hbracket : token.isPunctuator "[" = false := by
      rcases h with h | h | h <;> simp [Token.isPunctuator, h]
    have hkind :
        (token.kind == .name || token.kind == .string || token.kind == .number) = true := by
      rcases h with h | h | h <;> simp [h]
    unfold passKey
    split
    · rename_i hnone
      cases hnone
    · rename_i found hfound
      cases hfound
      rw [if_neg (by simp [hbracket]), if_pos hkind]
      exact reads_pure _
  | @computed opener closer inner hopener hinner hcloser =>
    obtain ⟨hkind, hvalue⟩ := kind_of_isPunctuator hopener
    obtain ⟨hkind', hvalue'⟩ := kind_of_isPunctuator hcloser
    have hgroup := passGroup_balanced (isOpener_of_value hkind (by simp [hvalue])) hinner
      (isCloser_of_value hkind' (by simp [hvalue'])) previous rest
    have htokens : opener :: inner ++ [closer] ++ rest = opener :: inner ++ closer :: rest := by
      simp
    have hlast : lastOf previous (opener :: inner ++ [closer]) = some closer := by simp
    rw [htokens, hlast, ← hgroup]
    unfold passKey
    split
    · rename_i hnone
      cases hnone
    · rename_i found hfound
      cases hfound
      rw [if_pos hopener]
      exact reads_pure _

theorem reads_rest (hdots : place.isPunctuator "..." = true)
    (h : Reads (bindingTarget place.next) names last) :
    Reads (objectProperty place) names last := by
  rw [objectProperty, dif_pos hdots]
  exact h.bind_pure fun hlast => reads_pure _

theorem reads_shorthand (previous : Option Token) (hname : token.isAnyName = true)
    (hcolon : Place.isPunctuator ⟨some token, rest⟩ ":" = false) :
    Reads (objectProperty ⟨previous, token :: rest⟩) [token.value]
      (passOptionalDefault ⟨some token, rest⟩) := by
  have hdots : ¬ Place.isPunctuator ⟨previous, token :: rest⟩ "..." = true := by
    intro hdots
    have hmark : token.isPunctuator "..." = true := hdots
    rw [isAnyName_of_isPunctuator hmark] at hname
    cases hname
  rw [objectProperty, dif_neg hdots, dif_pos ⟨hname, by simp [Place.next, hcolon]⟩]
  exact ⟨_, rfl⟩

theorem reads_keyed {colon : Place} (hdots : place.isPunctuator "..." = false)
    (hshort : place.isAnyName = true → place.next.isPunctuator ":" = true)
    (hkey : Reads (passKey place) [] colon) (hcolon : colon.isPunctuator ":" = true)
    (h : Reads (bindingTarget colon.next) names middle) :
    Reads (objectProperty place) names (passOptionalDefault middle) := by
  rw [objectProperty, dif_neg (by simp [hdots]), dif_neg (by simpa using hshort)]
  apply hkey.bind
  intro hbefore
  simp only [hcolon, if_true]
  exact h.bind_pure fun hmiddle => reads_pure _

end Readers

section Heads

variable {tokens : List Token} {names : List String}

/-- A pattern starts with a name, a brace or a bracket. -/
theorem isPunctuator_pattern (h : Binds .pattern tokens names) (text : String)
    (htext : text ∉ ["\x7b", "["]) (previous : Option Token) (rest : List Token) :
    Place.isPunctuator ⟨previous, tokens ++ rest⟩ text = false := by
  simp only [List.mem_cons, List.not_mem_nil, or_false, not_or] at htext
  cases h with
  | @name token hname =>
    have hkind : token.kind = .name := by simpa [Token.isAnyName] using hname
    simp [Place.isPunctuator, Place.first?, Token.isPunctuator, hkind]
  | object hopener h => exact isPunctuator_eq_false hopener text (Ne.symm htext.1)
  | array hopener h => exact isPunctuator_eq_false hopener text (Ne.symm htext.2)

/-- A key starts with a name, a string, a number or a bracket. -/
theorem isPunctuator_key {key : List Token} (hkey : Key key) (text : String)
    (htext : text ≠ "[") (previous : Option Token) (rest : List Token) :
    Place.isPunctuator ⟨previous, key ++ rest⟩ text = false := by
  cases hkey with
  | plain hkind =>
    rcases hkind with hkind | hkind | hkind <;>
      simp [Place.isPunctuator, Place.first?, Token.isPunctuator, hkind]
  | computed hopener hinner hcloser => exact isPunctuator_eq_false hopener text (Ne.symm htext)

/-- A property starts with a name, a string, a number, a bracket or three dots. -/
theorem isPunctuator_property (h : Binds .property tokens names) (text : String)
    (htext : text ∉ ["[", "..."]) (previous : Option Token) (rest : List Token) :
    Place.isPunctuator ⟨previous, tokens ++ rest⟩ text = false := by
  simp only [List.mem_cons, List.not_mem_nil, or_false, not_or] at htext
  cases h with
  | @shorthand token initial hname hinitial =>
    have hkind : token.kind = .name := by simpa [Token.isAnyName] using hname
    simp [Place.isPunctuator, Place.first?, Token.isPunctuator, hkind]
  | keyed hkey hcolon h hinitial =>
    rw [List.append_assoc]
    exact isPunctuator_key hkey text htext.1 previous _
  | rest hdots h => exact isPunctuator_eq_false hdots text (Ne.symm htext.2)

/-- The pattern of an element stands behind its dots. -/
theorem elementStart_append {dots pattern : List Token} (hdots : Optionally "..." (· = []) dots)
    (h : Binds .pattern pattern names) (previous : Option Token) (rest : List Token) :
    elementStart ⟨previous, dots ++ (pattern ++ rest)⟩ =
      ⟨lastOf previous dots, pattern ++ rest⟩ := by
  cases hdots with
  | absent =>
    have hout := isPunctuator_pattern h "..." (by decide) previous rest
    rw [elementStart, List.nil_append, hout, if_neg Bool.false_ne_true, lastOf_nil]
  | @present token after hmark hafter =>
    subst hafter
    have hat : Place.isPunctuator ⟨previous, [token] ++ (pattern ++ rest)⟩ "..." = true := hmark
    rw [elementStart, if_pos hat]
    rfl

/-- An element starts with three dots or as a pattern does. -/
theorem isPunctuator_element {dots pattern : List Token} (hdots : Optionally "..." (· = []) dots)
    (h : Binds .pattern pattern names) (text : String) (htext : text ∉ ["\x7b", "[", "..."])
    (previous : Option Token) (rest : List Token) :
    Place.isPunctuator ⟨previous, dots ++ (pattern ++ rest)⟩ text = false := by
  simp only [List.mem_cons, List.not_mem_nil, or_false, not_or] at htext
  cases hdots with
  | absent => exact isPunctuator_pattern h text (by simp [htext]) previous rest
  | present hmark hafter => exact isPunctuator_eq_false hmark text (Ne.symm htext.2.2)

end Heads

def Form.reader : Form → (place : Place) → Scan place.Beyond
  | .pattern => bindingTarget
  | .property => objectProperty
  | .properties => objectBindings
  | .elements => arrayBindings

/-- The readers of patterns record just the names that are bound, and pass all of the pattern. -/
theorem reads_of_binds {form : Form} {tokens : List Token} {names : List String}
    (h : Binds form tokens names) (previous : Option Token) (rest : List Token)
    (hrest : form = .property → StartsWith [",", "\x7d"] rest) :
    Reads (form.reader ⟨previous, tokens ++ rest⟩) names ⟨lastOf previous tokens, rest⟩ := by
  induction h generalizing previous rest with
  | name hname => exact reads_name hname
  | object hopener h ih =>
    rw [lastOf_cons]
    exact reads_object hopener (ih _ rest (by simp))
  | array hopener h ih =>
    rw [lastOf_cons]
    exact reads_array hopener (ih _ rest (by simp))
  | @shorthand token initial hname hinitial =>
    have hfollow : StartsWith [",", "\x7d", "]"] rest := (hrest rfl).mono (by simp)
    have hcolon := (hinitial.startsWith hfollow).isPunctuator_eq_false ":" (by decide)
    have hread := reads_shorthand previous hname (hcolon (some token))
    rwa [passOptionalDefault_append hinitial hfollow, ← lastOf_cons previous] at hread
  | @keyed colon key pattern initial names hkey hcolon h hinitial ih =>
    have hfollow : StartsWith [",", "\x7d", "]"] rest := (hrest rfl).mono (by simp)
    have htokens : key ++ colon :: (pattern ++ initial) ++ rest =
        key ++ colon :: (pattern ++ (initial ++ rest)) := by
      simp
    have hdots := isPunctuator_key hkey "..." (by decide) previous
      (colon :: (pattern ++ (initial ++ rest)))
    have hcolonAfter : Place.isAnyName ⟨previous, key ++ colon :: (pattern ++ (initial ++ rest))⟩ =
          true →
        (Place.next ⟨previous, key ++ colon :: (pattern ++ (initial ++ rest))⟩).isPunctuator ":" =
          true := by
      intro hname
      cases hkey with
      | plain hkind => exact hcolon
      | computed hopener hinner hcloser =>
        exact absurd (hname.symm.trans (isAnyName_of_isPunctuator hopener)) (by decide)
    have hread := reads_keyed hdots hcolonAfter (reads_key hkey) hcolon
      (ih (some colon) (initial ++ rest) (by simp))
    rw [passOptionalDefault_append hinitial hfollow] at hread
    rw [htokens]
    simp only [lastOf_append, lastOf_cons]
    exact hread
  | @rest dots pattern names hdots h ih =>
    rw [lastOf_cons]
    exact reads_rest hdots (ih _ rest (by simp))
  | noProperty hcloser => exact reads_noProperty hcloser
  | @lastProperty closer tokens names h hcloser ih =>
    have hstart := isPunctuator_property h "\x7d" (by decide) previous (closer :: rest)
    have hproperty := ih previous (closer :: rest) fun _ => startsWith_cons hcloser (by simp) rest
    have hread := reads_lastProperty hstart hproperty hcloser
      (isPunctuator_eq_false hcloser "," (by decide))
    rw [List.append_assoc, List.singleton_append, lastOf_append]
    exact hread
  | @moreProperties comma first others names more h hcomma hothers ih ihOthers =>
    have hstart := isPunctuator_property h "\x7d" (by decide) previous
      (comma :: (others ++ rest))
    have hproperty := ih previous (comma :: (others ++ rest)) fun _ =>
      startsWith_cons hcomma (by simp) _
    have hread := reads_moreProperties hstart hproperty hcomma
      (ihOthers (some comma) rest (by simp))
    rw [List.append_assoc, List.cons_append, lastOf_append, lastOf_cons]
    exact hread
  | noElement hcloser => exact reads_noElement hcloser
  | hole hcomma h ih =>
    rw [lastOf_cons]
    exact reads_hole (isPunctuator_eq_false hcomma "]" (by decide)) hcomma (ih _ rest (by simp))
  | @lastElement closer dots pattern initial names hdots h hinitial hcloser ih =>
    have htokens : dots ++ (pattern ++ (initial ++ [closer])) ++ rest =
        dots ++ (pattern ++ (initial ++ closer :: rest)) := by
      simp
    have hstart := isPunctuator_element hdots h "]" (by decide) previous
      (initial ++ closer :: rest)
    have hhole := isPunctuator_element hdots h "," (by decide) previous
      (initial ++ closer :: rest)
    have hpattern := ih (lastOf previous dots) (initial ++ closer :: rest) (by simp)
    have hfollow : StartsWith [",", "\x7d", "]"] (closer :: rest) :=
      startsWith_cons hcloser (by simp) rest
    have hafter := passOptionalDefault_append hinitial hfollow
    rw [← elementStart_append hdots h] at hpattern
    have hread := reads_lastElement hstart hhole hpattern (by rw [hafter]; exact hcloser)
      (by rw [hafter]; exact isPunctuator_eq_false hcloser "," (by decide))
    rw [hafter] at hread
    rw [htokens]
    simp only [lastOf_append]
    exact hread
  | @moreElements comma dots pattern initial others names more hdots h hinitial hcomma hothers ih
      ihOthers =>
    have htokens : dots ++ (pattern ++ (initial ++ comma :: others)) ++ rest =
        dots ++ (pattern ++ (initial ++ comma :: (others ++ rest))) := by
      simp
    have hstart := isPunctuator_element hdots h "]" (by decide) previous
      (initial ++ comma :: (others ++ rest))
    have hhole := isPunctuator_element hdots h "," (by decide) previous
      (initial ++ comma :: (others ++ rest))
    have hpattern := ih (lastOf previous dots) (initial ++ comma :: (others ++ rest)) (by simp)
    have hfollow : StartsWith [",", "\x7d", "]"] (comma :: (others ++ rest)) :=
      startsWith_cons hcomma (by simp) (others ++ rest)
    have hafter := passOptionalDefault_append hinitial hfollow
    rw [← elementStart_append hdots h] at hpattern
    have hread := reads_moreElements hstart hhole hpattern (by rw [hafter]; exact hcomma)
      (by rw [hafter]; exact ihOthers (some comma) rest (by simp))
    rw [htokens]
    simp only [lastOf_append, lastOf_cons]
    exact hread

end RouteTable.Exports
