import SqlLineage.Sql.Grammar.TableChanges

/-!
# Privileges

GRANT, DENY and REVOKE, and the options of roles.  Each is read behind its first key word.
-/

namespace SqlLineage.Sql.Parse

/-- Privileges of several words, and of one word that takes nothing. -/
def plainPrivileges : List (List String) :=
  [["IMPORTED", "PRIVILEGES"], ["ADD", "SEARCH", "OPTIMIZATION"], ["ATTACH", "LISTING"],
    ["ATTACH", "POLICY"], ["BIND", "SERVICE", "ENDPOINT"], ["EVOLVE", "SCHEMA"],
    ["IMPORT", "SHARE"], ["OVERRIDE", "SHARE", "RESTRICTIONS"],
    ["PURCHASE", "DATA", "EXCHANGE", "LISTING"], ["READ", "SESSION"], ["RESOLVE", "ALL"],
    ["APPLYBUDGET"], ["AUDIT"], ["CONNECT"], ["DELETE"], ["DROP"], ["FAILOVER"],
    ["OPERATE"], ["OWNERSHIP"], ["READ"], ["REFERENCE_USAGE"], ["REPLICATE"], ["TEMPORARY"],
    ["TRIGGER"], ["TRUNCATE"], ["USAGE"]]

/-- What a privilege of one of these words is about: the words that may follow, and how a message
calls them where they have to. -/
structure PrivilegeKind where
  key : String
  objects : List (List String)
  required : Option String := none

/-- What the privilege to run code is about. -/
def executedObjects : List (List String) :=
  [["DATA", "METRIC", "FUNCTION"], ["MANAGED", "ALERT"], ["MANAGED", "TASK"], ["ALERT"], ["TASK"]]

/-- Privileges that may say for which objects of a kind they hold. -/
def privilegeKinds : List PrivilegeKind :=
  [{ key := "APPLY"
     objects := [["AGGREGATION", "POLICY"], ["AUTHENTICATION", "POLICY"], ["JOIN", "POLICY"],
      ["MASKING", "POLICY"], ["PACKAGES", "POLICY"], ["PASSWORD", "POLICY"],
      ["PROJECTION", "POLICY"], ["ROW", "ACCESS", "POLICY"], ["SESSION", "POLICY"], ["TAG"]]
     required := some "GRANT APPLY type" },
    { key := "CREATE"
      objects := [["APPLICATION", "PACKAGE"], ["COMPUTE", "POOL"], ["DATA", "EXCHANGE", "LISTING"],
        ["EXTERNAL", "VOLUME"], ["FAILOVER", "GROUP"], ["NETWORK", "POLICY"],
        ["ORGANIZATION", "LISTING"], ["REPLICATION", "GROUP"], ["ACCOUNT"], ["APPLICATION"],
        ["DATABASE"], ["INTEGRATION"], ["ROLE"], ["SCHEMA"], ["SHARE"], ["USER"],
        ["WAREHOUSE"]] },
    { key := "EXEC", objects := executedObjects },
    { key := "EXECUTE", objects := executedObjects },
    { key := "MANAGE"
      objects := [["ACCOUNT", "SUPPORT", "CASES"], ["EVENT", "SHARING"],
        ["LISTING", "AUTO", "FULFILLMENT"], ["GRANTS"], ["WAREHOUSES"]]
      required := some "GRANT MANAGE type" },
    { key := "MODIFY"
      objects := [["LOG", "LEVEL"], ["TRACE", "LEVEL"], ["SESSION", "LOG", "LEVEL"],
        ["SESSION", "TRACE", "LEVEL"]] },
    { key := "MONITOR", objects := [["EXECUTION"], ["SECURITY"], ["USAGE"]] }]

/-- The first of the lists of key words that stands next. -/
def firstOf : List (List String) → Parser (Option (List String))
  | [] => return none
  | words :: more => do
    if ← keywords words then return some words else firstOf more

/-- A privilege. -/
def privilege : Parser String := do
  if let some words ← firstOf plainPrivileges then return " ".intercalate words
  else if ← keywords ["DATABASE", "ROLE"] then
    return "DATABASE ROLE " ++ (← objectName false).render
  else if ← keyword "ROLE" then return "ROLE " ++ (← objectName false).render
  else if let some key ← oneOf ["SELECT", "INSERT", "UPDATE", "REFERENCES"] then
    let columns ← optionalIdentList false
    return if columns.isEmpty then key
      else key ++ " (" ++ commaList (columns.map Ident.render) ++ ")"
  else
    let key ← peekKey
    match privilegeKinds.find? (·.key == key) with
    | none => expected "a privilege keyword"
    | some kind =>
      drop 1
      match ← firstOf kind.objects, kind.required with
      | some words, _ => return key ++ " " ++ " ".intercalate words
      | none, some what => expected what
      | none, none => return key

/-- What privileges may be granted for without naming each object. -/
def objectGroups : List (List String) :=
  [["ALL", "TABLES", "IN", "SCHEMA"], ["ALL", "EXTERNAL", "TABLES", "IN", "SCHEMA"],
    ["ALL", "VIEWS", "IN", "SCHEMA"], ["ALL", "MATERIALIZED", "VIEWS", "IN", "SCHEMA"],
    ["ALL", "FUNCTIONS", "IN", "SCHEMA"], ["ALL", "SEQUENCES", "IN", "SCHEMA"],
    ["FUTURE", "SCHEMAS", "IN", "DATABASE"], ["FUTURE", "TABLES", "IN", "SCHEMA"],
    ["FUTURE", "EXTERNAL", "TABLES", "IN", "SCHEMA"], ["FUTURE", "VIEWS", "IN", "SCHEMA"],
    ["FUTURE", "MATERIALIZED", "VIEWS", "IN", "SCHEMA"], ["FUTURE", "SEQUENCES", "IN", "SCHEMA"],
    ["RESOURCE", "MONITOR"], ["COMPUTE", "POOL"], ["FAILOVER", "GROUP"], ["REPLICATION", "GROUP"],
    ["EXTERNAL", "VOLUME"]]

/-- The kinds of objects that privileges may be granted for. -/
def objectKinds : List String :=
  ["SEQUENCE", "DATABASE", "SCHEMA", "TABLE", "VIEW", "WAREHOUSE", "INTEGRATION", "USER",
    "CONNECTION", "PROCEDURE", "FUNCTION"]

/-- A name whose parts may be stars. -/
def wildcardName : Nat → Parser Unit
  | 0 => return ()
  | steps + 1 => do
    if !(← symbol "*") then discard namePart
    if ← symbol "." then wildcardName steps

/-- The objects that privileges are granted for. -/
def grantObjects : Parser Unit := do
  if (← firstOf objectGroups).isSome then discard (commaSeparated (objectName false))
  else
    let kind ← oneOf objectKinds
    discard (commaSeparated (do wildcardName (← budget)))
    if kind == some "PROCEDURE" || kind == some "FUNCTION" then
      if ← symbol "(" then
        discard (commaSeparatedUntil dataType ")")
        expectSymbol ")"

/-- Privileges and, if they are named, the objects they are for; whether objects are named. -/
def privileges : Parser (String × Bool) := do
  let actions ←
    if ← keyword "ALL" then do
      let word ← textIf (keyword "PRIVILEGES") " PRIVILEGES"
      pure ("ALL" ++ word)
    else do
      let trailing ← when Dialect.allowsTrailingCommas
      pure (commaList (← separated privilege (commaGoesOn trailing (· == "ON"))))
  if ← keyword "ON" then
    grantObjects
    return (actions ++ " ON", true)
  else return (actions, false)

/-- Those who are granted a privilege.  PUBLIC takes no name, and holds for the ones behind it that
say no kind of their own. -/
def granteesWithin : Nat → Bool → Parser Unit
  | 0, _ => return ()
  | steps + 1, isPublic => do
    let isPublic ←
      if ← when (· != .mssql) <&&> keyword "PUBLIC" then pure true
      else if ← keywords ["DATABASE", "ROLE"] <||> keywords ["APPLICATION", "ROLE"]
          <||> anyKeyword ["ROLE", "USER", "SHARE", "GROUP", "APPLICATION"] then pure false
      else pure isPublic
    if !isPublic then
      granteeName
      if ← symbol ":" then discard ident
    if ← symbol "," then granteesWithin steps isPublic

/-- Those who are granted a privilege. -/
def grantees : Parser Unit := do
  granteesWithin (← budget) false

/-- A GRANT. -/
def grantStatement : Parser String := do
  let (actions, _) ← privileges
  expectKeyword "TO"
  grantees
  discard (keywords ["WITH", "GRANT", "OPTION"])
  if !(← keywords ["COPY", "CURRENT", "GRANTS"]) then
    discard (keywords ["REVOKE", "CURRENT", "GRANTS"])
  if ← keyword "AS" then discard ident
  if ← keywords ["GRANTED", "BY"] then discard ident
  return "GRANT " ++ actions ++ " TO"

/-- A DENY. -/
def denyStatement : Parser String := do
  let (actions, named) ← privileges
  if !named then refuseAt "DENY statements must specify an object" (← peek)
  expectKeyword "TO"
  grantees
  dropBehavior
  if ← keyword "AS" then discard ident
  return "DENY " ++ actions ++ " TO"

/-- A REVOKE. -/
def revokeStatement : Parser String := do
  let (actions, _) ← privileges
  expectKeyword "FROM"
  grantees
  if ← keywords ["GRANTED", "BY"] then discard ident
  dropBehavior
  return "REVOKE " ++ actions ++ " FROM"

/-- The options of a role that take nothing: each with its opposite. -/
def roleFlags : List (String × String) :=
  [("BYPASSRLS", "NOBYPASSRLS"), ("CREATEDB", "NOCREATEDB"), ("CREATEROLE", "NOCREATEROLE"),
    ("INHERIT", "NOINHERIT"), ("LOGIN", "NOLOGIN"), ("REPLICATION", "NOREPLICATION"),
    ("SUPERUSER", "NOSUPERUSER")]

/-- The name of the flag that a key word sets. -/
def roleFlag? (key : String) : Option String :=
  (roleFlags.find? (fun flag => flag.1 == key || flag.2 == key)).map
    (fun flag => flag.1 ++ " or " ++ flag.2)

/-- An option of a role; `none` if none stands next. -/
def roleOption (below : Nested) : Parser (Option Unit) := do
  if (roleFlag? (← peekKey)).isSome then
    drop 1
    return some ()
  else if ← keyword "CONNECTION" then
    expectKeyword "LIMIT"
    discard (exprText below)
    return some ()
  else if ← keyword "PASSWORD" then
    if !(← keyword "NULL") then discard (exprText below)
    return some ()
  else if ← keyword "VALID" then
    expectKeyword "UNTIL"
    discard (exprText below)
    return some ()
  else return none

/-- An option of a new role: its name and what stands behind its key word; `none` if none stands
next. -/
def newRoleOption : Parser (Option (String × Parser Unit)) := do
  let names : Parser Unit := discard (commaSeparated ident)
  match ← dialect with
  | .mssql =>
    if ← keyword "AUTHORIZATION" then
      return some ("AUTHORIZATION", discard (objectName false))
    else return none
  | .postgres =>
    let key ← peekKey
    if let some flag := roleFlag? key then
      drop 1
      return some (flag, pure ())
    else
      match ← oneOf ["CONNECTION", "PASSWORD", "VALID", "IN", "ROLE", "USER", "ADMIN"] with
      | some "CONNECTION" =>
        expectKeyword "LIMIT"
        return some ("CONNECTION LIMIT", discard numberValue)
      | some "PASSWORD" =>
        return some ("PASSWORD", do if !(← keyword "NULL") then discard value)
      | some "VALID" =>
        expectKeyword "UNTIL"
        return some ("VALID UNTIL", discard value)
      | some "IN" =>
        match ← oneOf ["ROLE", "GROUP"] with
        | some kind => return some ("IN " ++ kind, names)
        | none => expected "ROLE or GROUP after IN"
      | some key => return some (key, names)
      | none => return none
  | _ => return none

/-- The options of a new role, each given at most once. -/
def newRoleOptionsWithin : Nat → List String → Parser Unit
  | 0, _ => return ()
  | steps + 1, given => do
    let place ← peek
    match ← newRoleOption with
    | none => return ()
    | some (name, rest) =>
      if given.contains name then refuseAt ("Found multiple " ++ name) place
      rest
      newRoleOptionsWithin steps (name :: given)

/-- The definition of a role. -/
def createRole : Parser String := do
  discard (keywords ["IF", "NOT", "EXISTS"])
  let names ← commaSeparated (objectName false)
  discard (keyword "WITH")
  newRoleOptionsWithin (← budget) []
  return "CREATE ROLE " ++ commaList (names.map ObjectName.render)

/-- A change of a role and its options. -/
def alterRoleOptions (below : Nested) : Parser Unit := do
  discard ident
  if ← keywords ["IN", "DATABASE"] then discard (objectName false)
  if ← keyword "RENAME" then
    if !(← keyword "TO") then expected "TO after RENAME"
    discard ident
  else if ← keyword "SET" then
    discard (objectName false)
    if !(← keywords ["FROM", "CURRENT"]) then
      if ← not <$> (symbol "=" <||> keyword "TO") then expected "'TO' or '=' or 'FROM CURRENT'"
      if ← not <$> keyword "DEFAULT" then
        if (← attempt (exprText below)).isNone then expected "config value"
  else if ← keyword "RESET" then
    if !(← keyword "ALL") then discard (objectName false)
  else
    discard (keyword "WITH")
    let options ← repeatWhile (do return (← attempt (roleOption below)).join)
    if options.isEmpty then expected "option"

/-- A change of the members of a role. -/
def alterRoleMembers : Parser Unit := do
  discard ident
  if ← keywords ["ADD", "MEMBER"] <||> keywords ["DROP", "MEMBER"] then discard ident
  else if ← keywords ["WITH", "NAME"] then
    if !(← symbol "=") then expected "= after WITH NAME "
    discard ident
  else expected "'ADD' or 'DROP' or 'WITH NAME' after ALTER ROLE"

/-- A change of a role. -/
def alterRole (below : Nested) : Parser String := do
  match ← dialect with
  | .postgres => alterRoleOptions below
  | .mssql => alterRoleMembers
  | _ => refuse "ALTER ROLE is only support for PostgreSqlDialect, MsSqlDialect"
  return "ALTER ROLE"

end SqlLineage.Sql.Parse
