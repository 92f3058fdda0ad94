import Messaging.BrokerUri
import Messaging.Proofs.Text.Case
import Messaging.Proofs.Uri.Form
import Messaging.Proofs.Uri.Plain

/-!
# Options of an address

An address whose options are written as a form configures a broker as the form says.  The options
are taken one after another, and what they have come to at any moment depends on the last value of
each key alone; only a switch that is neither on nor off stops the reading.
-/

namespace Messaging.BrokerUri

open Text

/-! ## Switches -/

inductive Switch : String → Bool → Prop where
  | on {value : String} : InAnyCase "true" value → Switch value true
  | off {value : String} : InAnyCase "false" value → Switch value false

def IsSwitch (value : String) : Prop := ∃ b, Switch value b

theorem readSwitch_cases (key value : String) :
    (∃ b, Switch value b ∧ readSwitch key value = .ok b) ∨
      ¬ IsSwitch value ∧ readSwitch key value = .error (.badOption key value) := by
  have htrue : sameIgnoringCase value "true" = true ↔ InAnyCase "true" value :=
    sameIgnoringCase_iff (by decide)
  have hfalse : sameIgnoringCase value "false" = true ↔ InAnyCase "false" value :=
    sameIgnoringCase_iff (by decide)
  unfold readSwitch
  split
  next hon => exact .inl ⟨true, .on (htrue.mp hon), rfl⟩
  split
  next hoff => exact .inl ⟨false, .off (hfalse.mp hoff), rfl⟩
  next hnotOn hnotOff =>
    refine .inr ⟨?_, rfl⟩
    rintro ⟨b, hon | hoff⟩
    · exact hnotOn (htrue.mpr hon)
    · exact hnotOff (hfalse.mpr hoff)

theorem Switch.unique {value : String} {b b' : Bool} (h : Switch value b) (h' : Switch value b') :
    b = b' := by
  have hne : ¬ (InAnyCase "true" value ∧ InAnyCase "false" value) := fun ⟨hon, hoff⟩ =>
    absurd (hon.length_eq.trans hoff.length_eq.symm) (by decide)
  rcases h with hon | hoff <;> rcases h' with hon' | hoff'
  · rfl
  · exact absurd ⟨hon, hoff'⟩ hne
  · exact absurd ⟨hon', hoff⟩ hne
  · rfl

/-! ## One option -/

def optionKeys : List String := ["create", "broker.username", "broker.password", "jms.clientID"]

inductive Sets (u : BrokerUri) : String × String → Except Error BrokerUri → Prop where
  | create {value : String} {b : Bool} : Switch value b →
      Sets u ("create", value) (.ok { u with create := b })
  | refused {value : String} : ¬ IsSwitch value →
      Sets u ("create", value) (.error (.badOption "create" value))
  | username {value : String} :
      Sets u ("broker.username", value) (.ok { u with username := some value })
  | password {value : String} :
      Sets u ("broker.password", value) (.ok { u with password := some value })
  | clientId {value : String} :
      Sets u ("jms.clientID", value) (.ok { u with clientId := some value })
  | ignored {key value : String} : key ∉ optionKeys → Sets u (key, value) (.ok u)

theorem sets_setOption (u : BrokerUri) (pair : String × String) :
    Sets u pair (u.setOption pair) := by
  obtain ⟨key, value⟩ := pair
  unfold setOption
  split
  next hkey =>
    cases hkey
    rcases readSwitch_cases "create" value with ⟨b, hswitch, hread⟩ | ⟨hnot, hread⟩
    · rw [hread]
      exact .create hswitch
    · rw [hread]
      exact .refused hnot
  next hkey =>
    cases hkey
    exact .username
  next hkey =>
    cases hkey
    exact .password
  next hkey =>
    cases hkey
    exact .clientId
  next => exact .ignored (by simp_all [optionKeys])

/-! ## Values of a key -/

def valuesOf (key : String) (pairs : List (String × String)) : List String :=
  (pairs.filter (·.1 = key)).map Prod.snd

def last? (key : String) (pairs : List (String × String)) : Option String :=
  (valuesOf key pairs).getLast?

theorem valuesOf_cons (key : String) (pair : String × String) (pairs : List (String × String)) :
    valuesOf key (pair :: pairs) =
      if pair.1 = key then pair.2 :: valuesOf key pairs else valuesOf key pairs := by
  by_cases h : pair.1 = key <;> simp [valuesOf, h]

theorem forall_valuesOf_cons {p : String → Prop} (key : String) (pair : String × String)
    (pairs : List (String × String)) :
    (∀ value ∈ valuesOf key (pair :: pairs), p value) ↔
      (pair.1 = key → p pair.2) ∧ ∀ value ∈ valuesOf key pairs, p value := by
  by_cases h : pair.1 = key <;> simp [valuesOf_cons, h]

theorem last?_concat (key : String) (pairs : List (String × String)) (pair : String × String) :
    last? key (pairs ++ [pair]) = if pair.1 = key then some pair.2 else last? key pairs := by
  by_cases h : pair.1 = key <;> simp [last?, valuesOf, h]

/-! ## What the options come to -/

/-- What the options that were read so far make of an address. -/
structure Configures (text broker : String) (pairs : List (String × String))
    (u : BrokerUri) : Prop where
  text : u.text = text
  broker : u.broker = broker
  create : (last? "create" pairs).elim (u.create = true) fun value => Switch value u.create
  username : u.username = last? "broker.username" pairs
  password : u.password = last? "broker.password" pairs
  clientId : u.clientId = last? "jms.clientID" pairs

section Reading

variable {text broker : String} {pairs : List (String × String)} {u u' : BrokerUri}

theorem configures_nil : Configures text broker [] { text, broker } :=
  ⟨rfl, rfl, rfl, rfl, rfl, rfl⟩

theorem Configures.setOption {pair : String × String} (h : Configures text broker pairs u)
    (hset : u.setOption pair = .ok u') : Configures text broker (pairs ++ [pair]) u' := by
  have hsets := sets_setOption u pair
  rw [hset] at hsets
  obtain ⟨htext, hbroker, hcreate, husername, hpassword, hclientId⟩ := h
  cases hsets with
  | create | username | password | clientId => constructor <;> simp [last?_concat, *]
  | ignored hkey =>
      simp only [optionKeys, List.mem_cons, List.not_mem_nil, or_false, not_or] at hkey
      constructor <;> simp [last?_concat, *]

theorem Configures.foldlM {rest : List (String × String)} (h : Configures text broker pairs u)
    (hread : rest.foldlM BrokerUri.setOption u = .ok u') :
    Configures text broker (pairs ++ rest) u' := by
  -- on what is left to read, with any list of options before it
  induction rest generalizing pairs u with
  | nil =>
      cases hread
      simpa using h
  | cons pair rest ih =>
      obtain ⟨next, hset, hread⟩ := bind_eq_ok.mp hread
      simpa using ih (h.setOption hset) hread

end Reading

/-! ## Whether the options are accepted -/

def Stops (pairs : List (String × String)) (value : String) : Prop :=
  ∃ before after, valuesOf "create" pairs = before ++ value :: after ∧
    (∀ earlier ∈ before, IsSwitch earlier) ∧ ¬ IsSwitch value

theorem Stops.cons {pairs : List (String × String)} {value : String} (h : Stops pairs value)
    {pair : String × String} (hpair : pair.1 = "create" → IsSwitch pair.2) :
    Stops (pair :: pairs) value := by
  obtain ⟨before, after, hvalues, hbefore, hnot⟩ := h
  by_cases hkey : pair.1 = "create"
  · refine ⟨pair.2 :: before, after, ?_, List.forall_mem_cons.mpr ⟨hpair hkey, hbefore⟩, hnot⟩
    rw [valuesOf_cons, if_pos hkey, hvalues, List.cons_append]
  · exact ⟨before, after, by rw [valuesOf_cons, if_neg hkey, hvalues], hbefore, hnot⟩

theorem setOption_cases (u : BrokerUri) (pair : String × String) :
    (∃ u', u.setOption pair = .ok u' ∧ (pair.1 = "create" → IsSwitch pair.2)) ∨
      pair.1 = "create" ∧ ¬ IsSwitch pair.2 ∧
        u.setOption pair = .error (.badOption "create" pair.2) := by
  have hsets := sets_setOption u pair
  generalize u.setOption pair = outcome at hsets
  cases hsets with
  | create hswitch => exact .inl ⟨_, rfl, fun _ => ⟨_, hswitch⟩⟩
  | refused hnot => exact .inr ⟨rfl, hnot, rfl⟩
  | username | password | clientId => exact .inl ⟨_, rfl, by simp⟩
  | ignored hkey => exact .inl ⟨_, rfl, by rintro rfl; simp [optionKeys] at hkey⟩

theorem foldlM_cases (u : BrokerUri) (pairs : List (String × String)) :
    (∃ u', pairs.foldlM setOption u = .ok u' ∧ ∀ value ∈ valuesOf "create" pairs, IsSwitch value) ∨
      ∃ value, Stops pairs value ∧
        pairs.foldlM setOption u = .error (.badOption "create" value) := by
  induction pairs generalizing u with
  | nil => exact .inl ⟨u, rfl, by simp [valuesOf]⟩
  | cons pair pairs ih =>
      rw [List.foldlM_cons]
      rcases setOption_cases u pair with ⟨next, hset, hpair⟩ | ⟨hkey, hnot, hset⟩
      · rw [hset, ok_bind]
        rcases ih next with ⟨u', hread, hall⟩ | ⟨value, hstops, hread⟩
        · exact .inl ⟨u', hread, (forall_valuesOf_cons ..).mpr ⟨hpair, hall⟩⟩
        · exact .inr ⟨value, hstops.cons hpair, hread⟩
      · refine .inr ⟨pair.2, ⟨[], valuesOf "create" pairs, ?_, by simp, hnot⟩, ?_⟩
        · rw [valuesOf_cons, if_pos hkey, List.nil_append]
        · rw [hset, error_bind]

/-! ## Options that do not matter -/

theorem setOption_ignored {u : BrokerUri} {pair : String × String} (h : pair.1 ∉ optionKeys) :
    u.setOption pair = .ok u := by
  have hsets := sets_setOption u pair
  generalize u.setOption pair = outcome at hsets
  cases hsets with
  | ignored => rfl
  | create | refused | username | password | clientId => simp [optionKeys] at h

theorem foldlM_filter (u : BrokerUri) (pairs : List (String × String)) :
    (pairs.filter (·.1 ∈ optionKeys)).foldlM setOption u = pairs.foldlM setOption u := by
  induction pairs generalizing u with
  | nil => rfl
  | cons pair pairs ih =>
      by_cases h : pair.1 ∈ optionKeys
      · simp [h, ih]
      · simp [h, ih, setOption_ignored h]

theorem setOption_text (u : BrokerUri) (text : String) (pair : String × String) :
    setOption { u with text } pair = (u.setOption pair).map ({ · with text }) := by
  unfold setOption
  split
  next =>
    cases readSwitch pair.1 pair.2 <;> rfl
  all_goals rfl

theorem foldlM_text (u : BrokerUri) (text : String) (pairs : List (String × String)) :
    pairs.foldlM setOption { u with text } =
      (pairs.foldlM setOption u).map ({ · with text }) := by
  induction pairs generalizing u with
  | nil => rfl
  | cons pair pairs ih =>
      rw [List.foldlM_cons, List.foldlM_cons, setOption_text]
      cases u.setOption pair with
      | error e => rfl
      | ok next => exact ih next

/-! ## Addresses with a form -/

/-- The names of brokers that stand in an address as they are. -/
def IsPlainName (name : String) : Prop := name ≠ "" ∧ name.toList.all Uri.isHostChar = true

instance (name : String) : Decidable (IsPlainName name) :=
  inferInstanceAs (Decidable (_ ∧ _))

def address (name : String) (pairs : List (String × String)) : String :=
  "vm://" ++ name ++ "?" ++ Uri.Form.text pairs

theorem parse_address {name : String} (hname : IsPlainName name) (pairs : List (String × String)) :
    parse (address name pairs) =
      pairs.foldlM setOption { text := address name pairs, broker := name } := by
  have huri : Uri.parse (address name pairs) =
      .ok ⟨"vm", name, some (Uri.Form.text pairs).toList⟩ :=
    Uri.parse_plain hname.1 (List.all_eq_true.mp hname.2) (Uri.Form.visible_text pairs)
  have hoptions : options (some (Uri.Form.text pairs).toList) = pairs := by
    rw [options, String.ofList_toList, Uri.Form.encode_text, Uri.Form.decode_encode]
  have hnamed : name.isEmpty = false := by simpa using hname.1
  simp only [parse, huri]
  simp [hnamed, hoptions]

theorem parse_cases {name : String} (hname : IsPlainName name) (pairs : List (String × String)) :
    (∃ u, parse (address name pairs) = .ok u ∧ Configures (address name pairs) name pairs u ∧
      ∀ value ∈ valuesOf "create" pairs, IsSwitch value) ∨
    ∃ value, Stops pairs value ∧
      parse (address name pairs) = .error (.badOption "create" value) := by
  rw [parse_address hname]
  rcases foldlM_cases { text := address name pairs, broker := name } pairs with
    ⟨u, hread, hall⟩ | hstops
  · exact .inl ⟨u, hread, configures_nil.foldlM hread, hall⟩
  · exact .inr hstops

theorem parse_filter {name : String} (hname : IsPlainName name) (pairs : List (String × String)) :
    parse (address name (pairs.filter (·.1 ∈ optionKeys))) =
      (parse (address name pairs)).map
        ({ · with text := address name (pairs.filter (·.1 ∈ optionKeys)) }) := by
  rw [parse_address hname, parse_address hname, foldlM_filter]
  exact foldlM_text { text := address name pairs, broker := name } _ pairs

theorem Stops.not_all {pairs : List (String × String)} {value : String} (h : Stops pairs value) :
    ¬ ∀ value ∈ valuesOf "create" pairs, IsSwitch value := by
  obtain ⟨before, after, hvalues, -, hnot⟩ := h
  exact fun hall => hnot (hall value (by simp [hvalues]))

theorem credentials_eq_some {u : BrokerUri} {c : Credentials} :
    u.credentials = some c ↔ (u.username.isSome ∨ u.password.isSome) ∧
      c = ⟨u.username.getD "", u.password.getD ""⟩ := by
  unfold credentials
  cases u.username <;> cases u.password <;> simp [eq_comm]

/--
An address with a form is read exactly when all values of its switch are on or off.  It then names
the broker and has the last value of each option; options under other keys do not matter.
-/
theorem parse_encoded {name : String} (hname : IsPlainName name)
    (pairs : List (String × String)) :
    ((∃ u, parse (address name pairs) = .ok u) ↔
      ∀ value ∈ valuesOf "create" pairs, IsSwitch value) ∧
    (∀ e, parse (address name pairs) = .error e →
      ∃ value, Stops pairs value ∧ e = .badOption "create" value) ∧
    (∀ u, parse (address name pairs) = .ok u →
      Configures (address name pairs) name pairs u ∧
      ∀ c, u.credentials = some c ↔
        ((last? "broker.username" pairs).isSome ∨ (last? "broker.password" pairs).isSome) ∧
          c = ⟨(last? "broker.username" pairs).getD "",
            (last? "broker.password" pairs).getD ""⟩) ∧
    parse (address name (pairs.filter (·.1 ∈ optionKeys))) =
      (parse (address name pairs)).map
        ({ · with text := address name (pairs.filter (·.1 ∈ optionKeys)) }) := by
  rcases parse_cases hname pairs with ⟨u, hparse, hconfigures, hall⟩ | ⟨value, hstops, hparse⟩
  · refine ⟨iff_of_true ⟨u, hparse⟩ hall, ?_, ?_, parse_filter hname pairs⟩
    · intro e herror
      cases hparse.symm.trans herror
    · intro u' hparse'
      cases hparse.symm.trans hparse'
      refine ⟨hconfigures, fun c => ?_⟩
      rw [credentials_eq_some, hconfigures.username, hconfigures.password]
  · refine ⟨iff_of_false ?_ hstops.not_all, ?_, ?_, parse_filter hname pairs⟩
    · rintro ⟨u, hparse'⟩
      cases hparse.symm.trans hparse'
    · intro e herror
      cases hparse.symm.trans herror
      exact ⟨value, hstops, rfl⟩
    · intro u hparse'
      cases hparse.symm.trans hparse'

/-! ### A form with repeated keys -/

def repeatedOptions : List (String × String) :=
  [("create", "TRUE"), ("broker.password", "p"), ("other", "maybe"), ("create", "fALSE"),
    ("broker.password", "p&q= +%#é")]

theorem parse_encoded_repeated :
    IsPlainName "b" ∧
      address "b" repeatedOptions = "vm://b?create=TRUE&broker.password=p&other=maybe&" ++
        "create=fALSE&broker.password=p%26q%3D+%2B%25%23%C3%A9" ∧
      ∃ u, parse (address "b" repeatedOptions) = .ok u ∧ u.broker = "b" ∧ u.create = false ∧
        u.clientId = none ∧ u.credentials = some ⟨"", "p&q= +%#é"⟩ := by
  have hname : IsPlainName "b" := by decide
  have hon : Switch "TRUE" true := .on (by simp [InAnyCase])
  have hoff : Switch "fALSE" false := .off (by simp [InAnyCase])
  obtain ⟨hread, -, hresult, -⟩ := parse_encoded hname repeatedOptions
  have hvalues : valuesOf "create" repeatedOptions = ["TRUE", "fALSE"] := by decide
  obtain ⟨u, hparse⟩ := hread.mpr (by
    rw [hvalues]
    simpa using ⟨⟨true, hon⟩, ⟨false, hoff⟩⟩)
  obtain ⟨hconfigures, hcredentials⟩ := hresult u hparse
  refine ⟨hname, by decide, u, hparse, hconfigures.broker, ?_, hconfigures.clientId, ?_⟩
  · exact Switch.unique hconfigures.create hoff
  · exact (hcredentials _).mpr ⟨by decide, by decide⟩

end Messaging.BrokerUri
