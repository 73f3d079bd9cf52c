import StaticContext.Context.Resolve
import StaticContext.Script.Tree

/-! What a context call becomes. The accessor holds its modules by key and closes over nothing but
their bindings:

    (() => {
        let modules = { "./a.js": { default: A } };
        let context = (id) => modules[id];
        context.keys = () => ["./a.js"];
        return context;
    })()
-/

namespace StaticContext
open Script

namespace Accessor

/-- `name` bound by `let`. -/
def binding (name : String) (value : Tree) : Tree :=
  .node (.variables .blockScoped false) [.node (.declarator false) [.name name, value]]

/-- A plain arrow function. -/
def arrow (params : List Tree) (body : Tree) : Tree :=
  .node (.arrow false) [.list params, body, .absent, .absent]

/-- The exports of a module, of which a context knows the default. -/
def exports (identifier : String) : Tree :=
  .node .object [.node .property [.name "default", .name identifier]]

def modulesObject (modules : List ContextModule) : Tree :=
  .node .object (modules.map fun m => .node .property [.string m.key, exports m.identifier])

def lookup : Tree :=
  arrow [.name "id"] (.node .member [.name "modules", .node .computed [.name "id"]])

def keysFunction (modules : List ContextModule) : Tree :=
  arrow [] (.node .array (modules.map fun m => .string m.key))

def body (modules : List ContextModule) : List Tree :=
  [binding "modules" (modulesObject modules),
   binding "context" lookup,
   .node .expression
     [.node (.assign "=") [.node .member [.name "context", .name "keys"], keysFunction modules]],
   .node .returnStatement [.name "context"]]

end Accessor

/-- The expression for a context, in the place `span`. -/
def ResolvedContext.accessor (c : ResolvedContext) (span : Span) : Tree :=
  .node (.call span)
    [.node .paren [Accessor.arrow [] (.node .block (Accessor.body c.modules))], .list [], .absent]

/-- The import that binds a module's default export. -/
def ContextModule.importTree (m : ContextModule) : Tree :=
  .node (.importDeclaration false)
    [.list [.node (.importDefault m.identifier) []], .string m.specifier, .absent]

end StaticContext
