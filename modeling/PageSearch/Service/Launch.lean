import PageSearch.Backend.Connection
import PageSearch.Service.App
import PageSearch.Service.Shipped

/-!
# Launching the service

A service that is launched from its own settings searches with the shipped settings of the search,
over a connection that its settings may name.
-/

namespace PageSearch.Launch

/-- The name of the connection of a service. What does not count as true names none, and only a text
is a name. -/
def connectionName (named : Value) : Outcome String :=
  if named.isTruthy then named.asText .unsuitable else .ok Shipped.defaultConnection

/-- The settings of the connection of a service. There may be none of its name, which shows when the
connection is opened. -/
def connectionSettings (envs : Fields) : Outcome Value :=
  return Shipped.connection (← connectionName (envs.getD "elastic_env_name"))

/-- A service that has been launched. -/
structure Launched where
  /-- Its title and version. -/
  app : App
  /-- The settings of the search. -/
  settings : Settings
  /-- The connection to the engine, which is not open yet. -/
  connection : Connection

/-- Launches a service. -/
def ofEnvs (envs : Value) : Outcome Launched := do
  let app ← App.ofEnvs envs
  let connection ← connectionSettings (← envs.fields)
  let settings ← Settings.ofSections Shipped.search Shipped.page
  return { app := ← app.check, settings, connection := { settings := connection } }

end PageSearch.Launch
