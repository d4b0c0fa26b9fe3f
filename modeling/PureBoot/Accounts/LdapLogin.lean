/-
  PureBoot.Accounts.LdapLogin — WHO IT IS that an LDAP server lets in.

  Embeds `_authenticate_with_config` of `services/ldap.py`.  The name given is put into
  the search filter of the configuration as it stands; the first entry found is the user,
  whose password is then checked by a bind.

  `ldap3`, Fernet and the server are parameters (`Ldap3`, `LdapServer`).  Every exception
  ends in `None`.

  Main results:
    * `formatUsername_filter` — the filter that is sent;
    * `ldap_identifies_iff` — the names that are found as they stand.
-/
import PureBoot.Lib.LdapFilter
import PureBoot.Accounts.Login

namespace PureBoot.Accounts

open PureBoot.Lib.Ldap

/-! ## §1. `str.format`. -/

/-- The text of a replacement field, and what follows its closing brace.  Braces nest, and
do not count between square brackets. -/
def takeField : Nat → Bool → Text → Option (Text × Text)
  | _, _, [] => none
  | depth, true, c :: t => (takeField depth (c ≠ ']') t).map (Prod.map (c :: ·) id)
  | 0, false, '}' :: t => some ([], t)
  | depth + 1, false, '}' :: t => (takeField depth false t).map (Prod.map ('}' :: ·) id)
  | depth, false, '{' :: t => (takeField (depth + 1) false t).map (Prod.map ('{' :: ·) id)
  | depth, false, c :: t => (takeField depth (c = '[') t).map (Prod.map (c :: ·) id)

/-- `template.format(…)`, given what becomes of a field; `none` is an exception.  The first
argument bounds the pieces. -/
def strFormat (field : Text → Option Text) : Nat → Text → Option Text
  | _, [] => some []
  | n + 1, '{' :: '{' :: t => (strFormat field n t).map ('{' :: ·)
  | n + 1, '}' :: '}' :: t => (strFormat field n t).map ('}' :: ·)
  | n + 1, '{' :: t => do
      let (name, t) ← takeField 0 false t
      let value ← field name
      let rest ← strFormat field n t
      return value ++ rest
  | _ + 1, '}' :: _ => none
  | n + 1, c :: t => (strFormat field n t).map (c :: ·)
  | 0, _ :: _ => none

/-! ## §2. Logging in. -/

/-- The columns of `LdapConfig` that a login reads. -/
structure LdapSettings extends LdapConfig where
  serverUrl : String
  useSsl : Bool := false
  useStartTls : Bool := false
  bindDn : String
  bindPasswordEncrypted : String
  baseDn : String
  userSearchFilter : String := "(&(objectClass=user)(sAMAccountName={username}))"
  usernameAttribute : String := "sAMAccountName"
  emailAttribute : String := "mail"
  displayNameAttribute : String := "displayName"
  groupAttribute : String := "memberOf"

/-- `LdapUser`, with all its fields. -/
structure LdapIdentity extends LdapUser where
  email : Option String
  displayName : Option String
  dn : String
  deriving DecidableEq

/-- A directory and the server in front of it. -/
structure LdapServer where
  rules : Rules
  /-- The entries, in the order in which a search gives them. -/
  entries : List Entry
  /-- The entry is in the subtree of a base. -/
  under : String → Entry → Bool
  /-- `bind()` with a name and a password; `none` is an exception. -/
  bind : String → String → Option Bool
  /-- `start_tls()` does not raise. -/
  startsTls : Bool
  /-- The schema has the requested attributes. -/
  offers : List String → Bool
  /-- There are no values of an attribute that the server does not know. -/
  known_of_values : ∀ e ∈ entries, ∀ attr, rules.known attr = false → e.values attr = []

/-- `ldap3`, Fernet and the fields of `str.format` other than `{username}`. -/
structure Ldap3 where
  /-- The package is there. -/
  installed : Bool
  /-- `Server(…)`: the directory at an address; `none` if no connection is made. -/
  server : String → Bool → Option LdapServer
  /-- `decrypt_value`; `none` is its exception. -/
  decryptValue : String → Option String
  /-- What `str.format` makes of another field; `none` is an exception. -/
  otherField : Text → String → Option Text
  /-- `attribute in entry`. -/
  contains : Entry → String → Bool
  /-- `str(entry[attribute])`, by the values. -/
  text : List Text → Text
  /-- The text of one value is the value. -/
  text_singleton : ∀ t, text [t] = t

/-- `user_search_filter.format(username=username)`. -/
def formatUsername (ldap3 : Ldap3) (userSearchFilter username : String) : Option Text :=
  strFormat
    (fun name => if name = "username".toList then some username.toList
      else ldap3.otherField name username)
    userSearchFilter.length userSearchFilter.toList

/-- `search(base_dn, search_filter, SUBTREE, attributes)`; `none` is an exception. -/
def LdapServer.search (d : LdapServer) (baseDn : String) (searchFilter : Text)
    (attributes : List String) : Option (List Entry) := do
  guard (d.offers attributes)
  let f ← parse searchFilter
  return d.entries.filter (fun e => d.under baseDn e && d.rules.matched f e)

/-- `entry[attribute]`; `none` is an exception. -/
def Ldap3.shown (ldap3 : Ldap3) (e : Entry) (name : String) : Option String := do
  guard (ldap3.contains e name)
  return String.ofList (ldap3.text (e.values name.toList))

/-- `LdapService._authenticate_with_config`. -/
def authenticateWithConfig (ldap3 : Ldap3) (config : LdapSettings) (username password : String) :
    Option LdapIdentity := do
  guard ldap3.installed
  -- the service account looks the user up
  let bindPassword ← ldap3.decryptValue config.bindPasswordEncrypted
  let server ← ldap3.server config.serverUrl config.useSsl
  let bound ← server.bind config.bindDn bindPassword
  guard bound
  guard (!config.useStartTls || server.startsTls)
  let searchFilter ← formatUsername ldap3 config.userSearchFilter username
  let entries ← server.search config.baseDn searchFilter [config.usernameAttribute,
    config.emailAttribute, config.displayNameAttribute, config.groupAttribute]
  let userEntry ← entries.head?
  -- the user's own bind checks the password
  let bound ← server.bind (String.ofList userEntry.dn) password
  guard bound
  let name ← ldap3.shown userEntry config.usernameAttribute
  return {
    username := name
    groups :=
      if ldap3.contains userEntry config.groupAttribute then
        (userEntry.values config.groupAttribute.toList).map String.ofList
      else []
    email := ldap3.shown userEntry config.emailAttribute
    displayName := ldap3.shown userEntry config.displayNameAttribute
    dn := String.ofList userEntry.dn }

/-! ## §3. Identifying a user. -/

/-- An attribute type of a schema. -/
structure AttributeType extends AttributeDescription where
  /-- `SINGLE-VALUE`. -/
  singleValue : Bool

namespace AttributeType

variable (attr : AttributeType)

/-- `(attr={username})`. -/
def usernameFilter : String := String.ofList (attr.filterText "{username}".toList)

/-- The directory keeps to the attribute type. -/
def Governs (d : LdapServer) : Prop :=
  attr.singleValue = true → ∀ e ∈ d.entries, (e.values attr.text).length ≤ 1

/-- A value of the entry equals the name, under the matching rule. -/
def Named (d : LdapServer) (username : String) (e : Entry) : Prop :=
  ∃ v ∈ e.values attr.text, d.rules.equal attr.text (utf8 username.toList) v = true

/-- **AN LDAP LOGIN IDENTIFIES THE USER IT WAS GIVEN**, in every directory. -/
structure Identifies (username : String) : Prop where
  matched : ∀ (ldap3 : Ldap3) (d : LdapServer), attr.Governs d → ∀ e ∈ d.entries,
    ((∃ t f, formatUsername ldap3 attr.usernameFilter username = some t ∧ parse t = some f
        ∧ d.rules.matched f e = true)
      ↔ attr.Named d username e)
  returned : ∀ (ldap3 : Ldap3) (d : LdapServer) (config : LdapSettings) (password : String)
      (user : LdapIdentity), attr.Governs d →
    ldap3.server config.serverUrl config.useSsl = some d →
    config.userSearchFilter = attr.usernameFilter →
    config.usernameAttribute = String.ofList attr.text →
    authenticateWithConfig ldap3 config username password = some user →
    d.rules.equal attr.text (utf8 username.toList) user.username.toList = true

end AttributeType

/-! ## §4. The filter that is sent. -/

theorem strFormat_literals (field : Text → Option Text) {l : Text}
    (h : ∀ c ∈ l, c ≠ '{' ∧ c ≠ '}') (n : Nat) (t : Text) :
    strFormat field (l.length + n) (l ++ t) = (strFormat field n t).map (l ++ ·) := by
  induction l with
  | nil =>
      show strFormat field (0 + n) t = _
      rw [Nat.zero_add]
      exact Option.map_id_fun'.symm ▸ rfl
  | cons c l ih =>
      rw [List.forall_mem_cons] at h
      have hstep : strFormat field ((c :: l).length + n) (c :: l ++ t)
          = (strFormat field (l.length + n) (l ++ t)).map (c :: ·) := by
        rw [List.length_cons, Nat.add_right_comm, List.cons_append]
        exact strFormat.eq_6 field _ _ _ (fun _ hc _ => h.1.1 hc) (fun _ hc _ => h.1.2 hc)
          h.1.1 h.1.2
      rw [hstep, ih h.2, Option.map_map]
      rfl

theorem strFormat_field (field : Text → Option Text) (n : Nat) {c : Char} {t name rest v : Text}
    (hc : c ≠ '{') (hname : takeField 0 false (c :: t) = some (name, rest))
    (hv : field name = some v) :
    strFormat field (n + 1) ('{' :: c :: t) = (strFormat field n rest).map (v ++ ·) := by
  rw [strFormat, hname]
  · show (field name).bind (fun value => (strFormat field n rest).bind fun rest =>
      some (value ++ rest)) = _
    rw [hv, Option.map_eq_bind]
    rfl
  · rintro t' ht'
    exact hc (List.cons.inj ht').1

namespace AttributeType

variable (attr : AttributeType)

theorem plain_filter_start : ∀ c ∈ '(' :: (attr.text ++ ['=']), c ≠ '{' ∧ c ≠ '}' := by
  intro c hc
  rcases List.mem_cons.mp hc with rfl | hc
  · decide
  rcases List.mem_append.mp hc with hc | hc
  · exact (isParen_of_isAttrChar (attr.chars c hc)).2.2.2.2.2.2
  · rw [List.mem_singleton.mp hc]
    decide

/-- The name stands in the filter as it was given. -/
theorem formatUsername_filter (ldap3 : Ldap3) (username : String) :
    formatUsername ldap3 attr.usernameFilter username
      = some (attr.filterText username.toList) := by
  have hsplit : ∀ right, attr.filterText right
      = '(' :: (attr.text ++ ['=']) ++ (right ++ [')']) := by
    intro right
    unfold AttributeDescription.filterText
    simp
  have htext : attr.usernameFilter.toList
      = '(' :: (attr.text ++ ['=']) ++ ("{username}".toList ++ [')']) :=
    String.toList_ofList.trans (hsplit _)
  unfold formatUsername
  rw [← String.length_toList, htext, List.length_append,
    strFormat_literals _ attr.plain_filter_start, hsplit]
  -- the one field, and the parenthesis after it
  have hfield : takeField 0 false ('u' :: "sername\x7d)".toList)
      = some ("username".toList, [')']) := by
    decide
  have hend : ∀ field, strFormat field 10 [')'] = some [')'] := fun _ => rfl
  show (strFormat _ (10 + 1) ('{' :: 'u' :: "sername\x7d)".toList)).map _ = _
  rw [strFormat_field _ 10 (by decide) hfield (if_pos rfl), hend]
  rfl

end AttributeType

/-! ## §5. What a login has found. -/

/-- The user of a login is an entry that its filter matches. -/
theorem authenticateWithConfig_found {ldap3 : Ldap3} {config : LdapSettings}
    {username password : String} {user : LdapIdentity} {d : LdapServer} {t : Text}
    (hserver : ldap3.server config.serverUrl config.useSsl = some d)
    (hfilter : formatUsername ldap3 config.userSearchFilter username = some t)
    (h : authenticateWithConfig ldap3 config username password = some user) :
    ∃ f e, parse t = some f ∧ e ∈ d.entries ∧ d.rules.matched f e = true
      ∧ ldap3.shown e config.usernameAttribute = some user.username := by
  unfold authenticateWithConfig at h
  obtain ⟨-, -, h⟩ := Option.bind_eq_some_iff.mp h
  obtain ⟨bindPassword, -, h⟩ := Option.bind_eq_some_iff.mp h
  obtain ⟨d', hd', h⟩ := Option.bind_eq_some_iff.mp h
  obtain rfl : d = d' := Option.some.inj (hserver.symm.trans hd')
  obtain ⟨serviceBound, -, h⟩ := Option.bind_eq_some_iff.mp h
  obtain ⟨-, -, h⟩ := Option.bind_eq_some_iff.mp h
  obtain ⟨-, -, h⟩ := Option.bind_eq_some_iff.mp h
  obtain ⟨t', ht', h⟩ := Option.bind_eq_some_iff.mp h
  obtain rfl : t = t' := Option.some.inj (hfilter.symm.trans ht')
  obtain ⟨entries, hsearch, h⟩ := Option.bind_eq_some_iff.mp h
  obtain ⟨e, he, h⟩ := Option.bind_eq_some_iff.mp h
  obtain ⟨userBound, -, h⟩ := Option.bind_eq_some_iff.mp h
  obtain ⟨-, -, h⟩ := Option.bind_eq_some_iff.mp h
  obtain ⟨name, hname, h⟩ := Option.bind_eq_some_iff.mp h
  obtain rfl := Option.some.inj h
  -- what the search gave
  unfold LdapServer.search at hsearch
  obtain ⟨-, -, hsearch⟩ := Option.bind_eq_some_iff.mp hsearch
  obtain ⟨f, hf, hsearch⟩ := Option.bind_eq_some_iff.mp hsearch
  obtain rfl := Option.some.inj hsearch
  obtain ⟨hmem, hmatched⟩ := List.mem_filter.mp (List.mem_of_head? he)
  exact ⟨f, e, hf, hmem, (Bool.and_eq_true_iff.mp hmatched).2, hname⟩

/-- A login whose every step succeeds. -/
theorem authenticateWithConfig_of {ldap3 : Ldap3} {config : LdapSettings}
    {username password bindPassword name : String} {d : LdapServer} {t : Text} {e : Entry}
    {rest : List Entry} (hinstalled : ldap3.installed = true)
    (hdecrypt : ldap3.decryptValue config.bindPasswordEncrypted = some bindPassword)
    (hserver : ldap3.server config.serverUrl config.useSsl = some d)
    (hservice : d.bind config.bindDn bindPassword = some true) (htls : d.startsTls = true)
    (hfilter : formatUsername ldap3 config.userSearchFilter username = some t)
    (hsearch : d.search config.baseDn t [config.usernameAttribute, config.emailAttribute,
      config.displayNameAttribute, config.groupAttribute] = some (e :: rest))
    (hbind : d.bind (String.ofList e.dn) password = some true)
    (hname : ldap3.shown e config.usernameAttribute = some name) :
    ∃ user, authenticateWithConfig ldap3 config username password = some user
      ∧ user.username = name := by
  unfold authenticateWithConfig
  simp only [hinstalled, hdecrypt, hserver, hservice, htls, hfilter, hsearch, hbind, hname,
    Bool.or_true, guard_true, Option.bind_eq_bind, Option.bind_some, Option.pure_def,
    List.head?_cons]
  exact ⟨_, rfl, rfl⟩

theorem LdapServer.matched_equality (d : LdapServer) {e : Entry} (he : e ∈ d.entries) (attr : Text)
    (v : Octets) :
    d.rules.matched (.equality attr v) e = true
      ↔ ∃ t ∈ e.values attr, d.rules.equal attr v t = true := by
  show decide (d.rules.test attr _ e = some true) = true ↔ _
  rw [decide_eq_true_iff]
  unfold Rules.test
  cases hknown : d.rules.known attr with
  | true => rw [if_pos rfl, Option.some.injEq, List.any_eq_true]
  | false =>
      -- an attribute that is not known has no values
      rw [if_neg Bool.false_ne_true, d.known_of_values e he attr hknown]
      simp

namespace AttributeType

variable (attr : AttributeType)

theorem matched_of_plain {username : String}
    (h : ∀ c ∈ username.toList, isSpecial c = false) (ldap3 : Ldap3) (d : LdapServer) {e : Entry}
    (he : e ∈ d.entries) :
    (∃ t f, formatUsername ldap3 attr.usernameFilter username = some t ∧ parse t = some f
        ∧ d.rules.matched f e = true)
      ↔ attr.Named d username e := by
  rw [attr.formatUsername_filter]
  unfold Named
  rw [← d.matched_equality he]
  constructor
  · rintro ⟨t, f, ht, hf, hmatched⟩
    obtain rfl := Option.some.inj ht
    rw [attr.parse_equality h] at hf
    obtain rfl := Option.some.inj hf
    exact hmatched
  · exact fun hmatched => ⟨_, _, rfl, attr.parse_equality h, hmatched⟩

theorem identifies_of_plain {username : String}
    (h : ∀ c ∈ username.toList, isSpecial c = false) (hsingle : attr.singleValue = true) :
    attr.Identifies username where
  matched := fun ldap3 d _ e he => attr.matched_of_plain h ldap3 d he
  returned := by
    intro ldap3 d config password user hgoverns hserver hfilter hname hlogin
    have hsent := attr.formatUsername_filter ldap3 username
    rw [← hfilter] at hsent
    obtain ⟨f, e, hf, he, hmatched, hshown⟩ := authenticateWithConfig_found hserver hsent hlogin
    rw [hfilter, attr.formatUsername_filter] at hsent
    obtain ⟨v, hv, hequal⟩ := (attr.matched_of_plain h ldap3 d he).mp
      ⟨_, f, attr.formatUsername_filter ldap3 username, hf, hmatched⟩
    -- the one value is what the login shows
    have hvalues : e.values attr.text = [v] := by
      have hle := hgoverns hsingle e he
      obtain ⟨w, hw⟩ := List.length_eq_one_iff.mp
        (le_antisymm hle (List.length_pos_of_mem hv))
      rw [hw] at hv ⊢
      rw [List.mem_singleton.mp hv]
    unfold Ldap3.shown at hshown
    obtain ⟨-, -, hshown⟩ := Option.bind_eq_some_iff.mp hshown
    rw [hname, String.toList_ofList, hvalues, ldap3.text_singleton] at hshown
    rw [← Option.some.inj hshown, String.toList_ofList]
    exact hequal

end AttributeType

/-! ## §6. Names that are not found as they stand. -/

/-- `str(attribute)`: the value, or the list of values. -/
def listText : List Text → Text
  | [t] => t
  | ts =>
      let quoted (t : Text) := Char.ofNat 39 :: (t ++ [Char.ofNat 39])
      '[' :: (", ".toList.intercalate (ts.map quoted) ++ [']'])

theorem exactRules_known {e : Entry} (attr : Text) (h : exactRules.known attr = false) :
    e.values attr = [] := by
  cases h

/-- A directory with exact rules that lets everybody in. -/
def openDirectory (entries : List Entry) : LdapServer where
  rules := exactRules
  entries := entries
  under := fun _ _ => true
  bind := fun _ _ => some true
  startsTls := true
  offers := fun _ => true
  known_of_values := fun _ _ attr => exactRules_known attr

theorem listText_singleton (t : Text) : listText [t] = t := rfl

/-- A client of one directory. -/
def openLdap3 (d : LdapServer) : Ldap3 where
  installed := true
  server := fun _ _ => some d
  decryptValue := some
  otherField := fun _ _ => none
  contains := fun _ _ => true
  text := listText
  text_singleton := listText_singleton

/-- An entry with these values of every attribute. -/
def entryOf (values : List Text) : Entry where
  dn := values.headD []
  values := fun _ => values

namespace AttributeType

variable (attr : AttributeType)

/-- The configuration of a client that looks a name up under the attribute. -/
def settings : LdapSettings where
  id := "ldap"
  serverUrl := "ldap://server:389"
  bindDn := "cn=pureboot"
  bindPasswordEncrypted := "secret"
  baseDn := "dc=example"
  userSearchFilter := attr.usernameFilter
  usernameAttribute := String.ofList attr.text

/-- With a special character in the name, the entries that are matched are others. -/
theorem not_identifies_of_special {username : String}
    (h : ∃ c ∈ username.toList, isSpecial c = true) : ¬ attr.Identifies username := by
  intro hident
  let once := entryOf [username.toList]
  let twice := entryOf [username.toList ++ username.toList]
  have hgoverns : attr.Governs (openDirectory [once, twice]) := by
    intro _ e he
    rcases List.mem_cons.mp he with rfl | he
    · exact le_refl 1
    · rw [List.mem_singleton.mp he]
      exact le_refl 1
  have hmatched := hident.matched (openLdap3 (openDirectory [once, twice])) _ hgoverns
  have honce : attr.Named (openDirectory [once, twice]) username once :=
    ⟨username.toList, List.mem_singleton_self _, decide_eq_true rfl⟩
  obtain ⟨t, f, ht, hf, honce⟩ := (hmatched once List.mem_cons_self).mpr honce
  rw [attr.formatUsername_filter] at ht
  obtain rfl := Option.some.inj ht
  -- the filter takes the doubled value too, or not the value itself
  have htwice := attr.special_mismatch h hf once twice rfl rfl honce
  obtain ⟨v, hv, hequal⟩ := (hmatched twice (List.mem_cons_of_mem _ List.mem_cons_self)).mp
    ⟨_, f, attr.formatUsername_filter _ username, hf, htwice⟩
  rw [List.mem_singleton.mp hv] at hequal
  refine utf8_ne_twice ?_ (of_decide_eq_true hequal)
  rintro hnil
  obtain ⟨c, hc, -⟩ := h
  rw [hnil] at hc
  cases hc

/-- Several values of one entry are shown as a list. -/
theorem not_identifies_of_values {username : String}
    (h : ∀ c ∈ username.toList, isSpecial c = false) (hsingle : attr.singleValue = false) :
    ¬ attr.Identifies username := by
  intro hident
  let e := entryOf [username.toList, 'x' :: username.toList]
  have hgoverns : attr.Governs (openDirectory [e]) := by
    intro htrue
    rw [hsingle] at htrue
    cases htrue
  have hsearch : (openDirectory [e]).search attr.settings.baseDn (attr.filterText username.toList)
      [attr.settings.usernameAttribute, attr.settings.emailAttribute,
        attr.settings.displayNameAttribute, attr.settings.groupAttribute] = some [e] := by
    have hmatched := ((openDirectory [e]).matched_equality (List.mem_singleton_self e) attr.text
      (utf8 username.toList)).mpr ⟨_, List.mem_cons_self, decide_eq_true rfl⟩
    unfold LdapServer.search
    rw [attr.parse_equality h]
    exact congrArg some (List.filter_cons_of_pos (Bool.and_eq_true_iff.mpr ⟨rfl, hmatched⟩))
  have hshown : (openLdap3 (openDirectory [e])).shown e attr.settings.usernameAttribute
      = some (String.ofList (listText [username.toList, 'x' :: username.toList])) := rfl
  have hbind : (openDirectory [e]).bind (String.ofList e.dn) "" = some true := rfl
  have hlogin : ∃ user, authenticateWithConfig (openLdap3 (openDirectory [e])) attr.settings
      username "" = some user
      ∧ user.username = String.ofList (listText [username.toList, 'x' :: username.toList]) :=
    authenticateWithConfig_of rfl rfl rfl rfl rfl
      (attr.formatUsername_filter (openLdap3 (openDirectory [e])) username) hsearch hbind hshown
  obtain ⟨user, hlogin, hname⟩ := hlogin
  have hequal := hident.returned _ _ attr.settings _ user hgoverns rfl rfl rfl hlogin
  -- the list is longer than each of its values
  have htext := utf8_injective (of_decide_eq_true hequal)
  rw [hname, String.toList_ofList] at htext
  have hlength := congrArg List.length htext
  simp [listText] at hlength
  omega

/-- **LDAP LOGINS**: the user of the name is found exactly if the name has no special
character and the attribute one value. -/
theorem ldap_identifies_iff (username : String) :
    attr.Identifies username
      ↔ (∀ c ∈ username.toList, isSpecial c = false) ∧ attr.singleValue = true := by
  constructor
  · intro hident
    have hplain : ∀ c ∈ username.toList, isSpecial c = false := by
      intro c hc
      rw [Bool.eq_false_iff]
      exact fun hspecial => attr.not_identifies_of_special ⟨c, hc, hspecial⟩ hident
    refine ⟨hplain, ?_⟩
    by_contra hmulti
    exact attr.not_identifies_of_values hplain (Bool.eq_false_iff.mpr hmulti) hident
  · exact fun h => attr.identifies_of_plain h.1 h.2

end AttributeType

/-- `sAMAccountName`, the attribute of the default configuration. -/
def sAMAccountName : AttributeType where
  text := "sAMAccountName".toList
  valid := by decide
  singleValue := true

/-- The user `al*` is alice. -/
theorem al_star_is_alice :
    (∃ user, authenticateWithConfig
        (openLdap3 (openDirectory [entryOf ["bob".toList], entryOf ["alice".toList]]))
        sAMAccountName.settings "al*" "password of alice" = some user ∧ user.username = "alice")
      ∧ ¬ sAMAccountName.Identifies "al*" := by
  refine ⟨?_, sAMAccountName.not_identifies_of_special ⟨'*', by decide, rfl⟩⟩
  have hsearch : (openDirectory [entryOf ["bob".toList], entryOf ["alice".toList]]).search
      sAMAccountName.settings.baseDn "(sAMAccountName=al*)".toList
      ["sAMAccountName", "mail", "displayName", "memberOf"] = some [entryOf ["alice".toList]] := rfl
  exact authenticateWithConfig_of rfl rfl rfl rfl rfl
    (sAMAccountName.formatUsername_filter _ "al*") hsearch rfl rfl

end PureBoot.Accounts
