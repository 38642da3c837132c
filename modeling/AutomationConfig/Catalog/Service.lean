import AutomationConfig.Schema
import AutomationConfig.Setting
import AutomationConfig.Violation

/-! # Services

A service block says how a service of a task's list is looked up. -/

namespace AutomationConfig

/-- How a service is looked up. -/
structure Service where
  datacenter : Setting String := none
  description : Setting String := none
  id : Setting String := none
  name : Setting String := none
  space : Setting String := none
  filter : Setting String := none
  userMeta : Table String := .empty
deriving DecidableEq, Inhabited

namespace Service

/-- The later of the settings of two fragments. -/
def merge (base other : Service) : Service where
  datacenter := base.datacenter.merge other.datacenter
  description := base.description.merge other.description
  id := base.id.merge other.id
  name := base.name.merge other.name
  space := base.space.merge other.space
  filter := base.filter.merge other.filter
  userMeta := base.userMeta.merge other.userMeta

/-- The block with its defaults filled in; the id is the name unless it is given. -/
def finalize (s : Service) : Service where
  datacenter := s.datacenter.orDefault ""
  description := s.description.orDefault ""
  id := s.id.orDefault s.name.value
  name := s.name.orDefault ""
  space := s.space.orDefault ""
  filter := s.filter.orDefault ""
  userMeta := s.userMeta

/-- A service has a name. -/
def check (s : Service) : Except Violation Unit := require s.name.isGiven .serviceNameMissing

/-- The rules for several services: no two have one id. -/
def checkAll (services : List Service) : Except Violation Unit :=
  checkDistinct check (fun s => s.id.value) .serviceIdTwice [] services

instance : Block Service where
  name := "ServiceConfig"
  blank := {}
  fields := [
    Field.of "datacenter" datacenter fun v b => { b with datacenter := v },
    Field.of "description" description fun v b => { b with description := v },
    Field.of "id" Service.id fun v b => { b with id := v },
    Field.of "name" Service.name fun v b => { b with name := v },
    Field.of "namespace" space fun v b => { b with space := v },
    Field.of "filter" filter fun v b => { b with filter := v },
    (Field.of "cts_user_defined_meta" userMeta fun v b => { b with userMeta := v }).optional]

end Service

end AutomationConfig
