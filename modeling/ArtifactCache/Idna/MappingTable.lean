/-!
# How internationalised domain names map their characters

What becomes of each code point from 128 on, in runs: `V` is kept, `X` is refused, `I` is dropped,
`A` maps every other one to its successor, beginning with the first, `U` and `D` map up and down by
a distance, and `M` maps to some code points.
-/

namespace ArtifactCache.Idna

/-- The mapping of the code points from 128 on, in runs. -/
def mappingText : String :=
  String.join
    ["XwM1,wV7M1,w,lkV1M1,2pV2I1V1M1,w,lgV2D2,3kM1,w,ldM1,qkV2M1,w,mfM1,1dM1,33V1M1,1d,6dg,1g",
      "M1,1d,6dg,1eM1,1f,6dg,1gV1Un,wV1U7,wVxA1cM1,2x,ljV1M2,2x,2yA4V1A6M2,30,53A8M1,jg,32A1a",
      "M1,73A6M1,37V1M1,gjA4M1,gkM1,awV1U2,5pM1,b0V2M1,d9M1,gpM1,grM1,b6V1M1,gwM1,gzV1M1,h5M1,h4",
      "M1,bdV3M1,hbM1,heV1M1,hhA6M1,hsM1,bsV1M1,hvV2M1,bxV1M1,i0M1,c0V1U2,61A4M1,iaM1,c9V3M1,cdV7",
      "M3,2s,amM3,30,2yM3,32,2yAgV1AiV1M3,2s,3eM1,dxV1M1,b9M1,cfA14M1,biV1AiV6M1,8rpM1,fwV1M1,be",
      "M1,8rqV2M1,g2V1M1,aoM1,i1M1,i4AaV2oM1,2wM1,h2M1,2yM1,36M1,hlM1,hnM1,htM1,3bM1,3dVvM1,w,li",
      "M1,w,ljM1,w,lmM1,w,mgM1,w,lfM1,w,lnV2M1,gzM1,30M1,37M1,3cM1,idV2jD2,1sV1M1,lvM1,lk,ldM1,qh",
      "V9I1VwA4M1,jdV1M1,onV1X2M1,w,qhV3M1,1nM1,s3X4M1,w,ldM1,w,lk,ldM1,q4M1,53U3,11X1M1,r0X1",
      "U2,1rV1Uh,wX1U9,wVzM1,rbM1,qaM1,qgM1,qtM1,r1M1,qzM1,quM1,qoV1AoM1,qiM1,qpM1,qrV1M1,qgM1,qd",
      "V1M1,s8V1M1,qrM1,sbV2D3,3mUg,28Uw,wV1cAyV8A1iM1,y7AeV1A2oX1U12,1cX2V1aM1,12d,136V3X2V3X1",
      "V1jX8VrX4V6XhVmX1V2gM1,17r,19wM1,18o,19wM1,1c7,19wM1,18q,19wV2sX1V1cX2V1nX2V2tXeV1nX2V1dX2",
      "VfX1VsX2V1X1VbX5VwX7V23X1V39M1,1sl,1toM1,1sm,1toM1,1sn,1toM1,1ss,1toM1,1sx,1toM1,1sy,1to",
      "M1,1t7,1toM1,1tb,1toV10X1V8X2V2X2VmX1V7X1V1X3V4X2V9X2V2X2V4X8V1X4M1,1wh,1x8M1,1wi,1x8X1",
      "M1,1wv,1x8V4X2VpX2V3X1V6X4V2X2VmX1V7X1V1M1,20i,20sX1V1M1,20o,20sX1V2X2V1X1V5X4V2X2V3X3V1X7",
      "M1,1zq,20sM1,1zr,20sM1,1zw,20sV1X1M1,20b,20sX7VhXaV3X1V9X1V3X1VmX1V7X1V2X1V5X2VaX1V3X1V3X2",
      "V1XfV4X2VcX7V7X1V3X1V8X2V2X2VmX1V7X1V2X1V5X2V9X2V2X2V3X7V3X4M1,275,27wM1,276,27wX1V5X2ViXa",
      "V2X1V6X3V3X1V4X3V2X1V1X1V2X3V2X3V3X3VcX4V5X3V3X1V4X2V1X6V1XeVlX5VdX1V3X1VnX1VgX2V9X1V3X1V4",
      "X7V2X1V3X1V2X2V4X2VaX7VmX1V3X1VnX1VaX1V5X2V9X1V3X1V4X7V2X5V3X1V4X2VaX1V3XcVdX1V3X1V1fX1V3",
      "X1V6X4VgX2VqX1V3X1ViX3VoX1V9X1V1X2V7X3V1X4V6X1V1X1V8X6VaX2V3XcV1eM1,2tp,2syV7X4VtX11V2X1V1",
      "X1V5X1VoX1V1X1VcM1,2x9,2wiVaX2V5X1V1X1V7X1VaX2M1,2wb,2vtM1,2wb,2w1V2XwVcM1,2yzV1i",
      "M1,30i,33rV4X1V4M1,30s,33rV4M1,30x,33rV4M1,312,33rV4M1,317,33rVcM1,30g,33pV3X4V2M1,31t,31u",
      "V1M1,31t,31wM1,33m,328M1,33m,31t,328M1,33n,328M1,33n,31t,328V7M1,31t,328VhM1,32q,33rV4X1V4",
      "M1,330,33rV4M1,335,33rV4M1,33a,33rV4M1,33f,33rVcM1,32o,33pV3X1VfX1VdX11V4gU12,5lsX1M1,8x3",
      "X5M1,8x9X2V18M1,3bwV2qI2V6gX1V4X2V7X1V1X1V4X2V15X1V4X2VxX1V4X2V7X1V1X1V4X2VfX1V1lX1V4X2V1v",
      "X2VwX3VqX6V2eX2D6,8X2VhsX1VsX3V2hX7VmX9VoX9VkXcVdX1V3X1V2XcV1gI2V14X2VaX6VaX6VbI5VaX6V2hX7",
      "V17X5V1yXaVvX1VcX4VcX4V1X3V16X2V5XbV18X4VqX6VbX3V1qX2V1tX1VtX2VbX6VaX6VeX2V1aX2VcXkV25X1",
      "V4mX8V1oX3VfX3V1fM1,tuM1,twM1,u6D2,4siM1,uaM1,uiM1,v7M1,wujM1,5myV1X5D17,2bkX2D3,2bkV8X8",
      "V17X5V18M1,2pM1,6eM1,2qV1D2,5osM1,d9D8,5osV1M1,33M1,f7M1,34M1,36D2,5osM1,3bM1,2pD2,5bo",
      "M1,5qaM1,2qD2,5pgM1,gpD2,5bkM1,2vV1M1,2zM1,31M1,97M1,33M1,gkD2,1qM1,34D2,5pfM1,5r1M1,hb",
      "M1,3aM1,5r9D3,52jD2,522M1,2xM1,36D2,5prD2,52sM1,qpD2,52bVdM1,u5VyM1,giM1,2rM1,glM1,6oM1,gs",
      "M1,2uM1,gvM1,gxM1,h1D3,5doM1,5tnM1,ilM1,h9M1,5txM1,inM1,hdM1,hcD4,5doM1,hkD2,5ddM1,bv",
      "D2,5d9M1,5r0D2,5daM1,3eD3,5d8M1,qgV1sA46V4M1,2p,jiM1,601V2M1,67V1A2oV8D8,8V6X2D6,8X2V8D8,8",
      "V8D8,8V6X2D6,8X2V8X1M1,66pX1M1,66rX1M1,66tX1M1,66vV8D8,8V1M1,q4V1M1,q5V1M1,q6V1M1,q7V1",
      "M1,r0V1M1,r1V1M1,r2X2M1,64g,qhM1,64h,qhM1,64i,qhM1,64j,qhM1,64k,qhM1,64l,qhM1,64m,qh",
      "M1,64n,qhM1,64g,qhM1,64h,qhM1,64i,qhM1,64j,qhM1,64k,qhM1,64l,qhM1,64m,qhM1,64n,qhM1,65c,qh",
      "M1,65d,qhM1,65e,qhM1,65f,qhM1,65g,qhM1,65h,qhM1,65i,qhM1,65j,qhM1,65c,qhM1,65d,qhM1,65e,qh",
      "M1,65f,qhM1,65g,qhM1,65h,qhM1,65i,qhM1,65j,qhM1,674,qhM1,675,qhM1,676,qhM1,677,qhM1,678,qh",
      "M1,679,qhM1,67a,qhM1,67b,qhM1,674,qhM1,675,qhM1,676,qhM1,677,qhM1,678,qhM1,679,qhM1,67a,qh",
      "M1,67b,qhV2M1,67k,qhM1,q9,qhM1,q4,qhX1V1M1,69i,qhD2,8M1,67kM1,q4M1,q9,qhM1,w,lvM1,qh",
      "M1,w,lvM1,w,n6M1,w,lk,n6M1,67o,qhM1,qf,qhM1,q6,qhX1V1M1,69y,qhM1,67mM1,q5M1,67oM1,q6",
      "M1,qf,qhM1,w,lv,lcM1,w,lv,ldM1,w,lv,n6V3M1,pcX2V2D2,8M1,67qM1,q7X1M1,w,lw,lcM1,w,lw,ld",
      "M1,w,lw,n6V3M1,q8V4D2,8M1,67uM1,r1M1,6atM1,w,lk,lcM1,w,lk,ldM1,2oX2M1,67w,qhM1,qx,qh",
      "M1,r2,qhX1V1M1,6ba,qhM1,67sM1,r0M1,67wM1,r2M1,qx,qhM1,w,ldM1,w,lwX1Mb,wI1V2X2V1M1,6c0V5",
      "M1,w,mrVcX3V1X7M1,wV3M1,6cy,6cyM1,6cy,6cy,6cyV1M1,6d1,6d1M1,6d1,6d1,6d1V4M1,x,xV1M1,w,lhV8",
      "M1,1r,1rM1,1r,xM1,x,1rVdM1,6cy,6cy,6cy,6cyV7M1,wI5X5I6M1,1cM1,2xX2D6,6dcM1,17M1,6qaM1,1p",
      "D2,6dxM1,32Da,6dsM1,17M1,6qaM1,1pD2,6edX1M1,2pM1,2tM1,33M1,3cM1,gpM1,2wD4,6crM1,34D2,6coX3",
      "V8M1,36,37VpXeVxXfM1,2p,1b,2rM1,2p,1b,37M1,2rM1,4w,2rV1M1,2r,1b,33M1,2r,1b,39M1,grV1",
      "M1,4w,2uD2,6g3M3,2wM1,87M2,2xM2,30V1M1,32M1,32,33V2D3,6g9M2,36V2M1,37,31M1,38,2t,30",
      "M1,38,31V1M1,3eV1M1,qxV1M1,3eV1M1,2zM1,6dD2,6h6V1M2,2tM1,2uM1,6kuM1,31M1,33D4,5etM1,2xV1",
      "M1,2u,2p,3cM1,qoM2,qbM1,qoM1,6q9V4M2,2sM1,2tD2,6hrV6M1,1d,6dg,1jM1,1d,6dg,1l",
      "M1,1d,6dg,1d,1cM1,1d,6dg,1fM1,1e,6dg,1fM1,1d,6dg,1hM1,1e,6dg,1hM1,1f,6dg,1hM1,1g,6dg,1h",
      "M1,1d,6dg,1iM1,1h,6dg,1iM1,1d,6dg,1kM1,1f,6dg,1kM1,1h,6dg,1kM1,1j,6dg,1kM1,1d,6dgM1,2x",
      "M1,2x,2xM1,2x,2x,2xM1,2x,3aM1,3aM1,3a,2xM1,3a,2x,2xM1,3a,2x,2x,2xM1,2x,3cM1,3cM1,3c,2x",
      "M1,3c,2x,2xM1,30D2,6iyM1,31M1,2xM1,2x,2xM1,2x,2x,2xM1,2x,3aM1,3aM1,3a,2xM1,3a,2x,2x",
      "M1,3a,2x,2x,2xM1,2x,3cM1,3cM1,3c,2xM1,3c,2x,2xM1,30D2,6jeM1,31V3M1,6mcV5M1,1c,6dg,1fV2X4",
      "V4cM1,6qz,6qzM1,6qz,6qz,6qzV1M1,6r2,6r2M1,6r2,6r2,6r2V6wU2,2jjV73XmVbXlD9,75bM1,1d,1c",
      "M1,1d,1dM1,1d,1eM1,1d,1fM1,1d,1gM1,1d,1hM1,1d,1iM1,1d,1jM1,1d,1kM1,1d,1lM1,1e,1c",
      "M1,14,1d,15M1,14,1e,15M1,14,1f,15M1,14,1g,15M1,14,1h,15M1,14,1i,15M1,14,1j,15M1,14,1k,15",
      "M1,14,1l,15M1,14,1d,1c,15M1,14,1d,1d,15M1,14,1d,1e,15M1,14,1d,1f,15M1,14,1d,1g,15",
      "M1,14,1d,1h,15M1,14,1d,1i,15M1,14,1d,1j,15M1,14,1d,1k,15M1,14,1d,1l,15M1,14,1e,1c,15Xk",
      "M1,14,2p,15M1,14,2q,15M1,14,2r,15M1,14,2s,15M1,14,2t,15M1,14,2u,15M1,14,2v,15M1,14,2w,15",
      "M1,14,2x,15M1,14,2y,15M1,14,2z,15M1,14,30,15M1,14,31,15M1,14,32,15M1,14,33,15M1,14,34,15",
      "M1,14,35,15M1,14,36,15M1,14,37,15M1,14,38,15M1,14,39,15M1,14,3a,15M1,14,3b,15M1,14,3c,15",
      "M1,14,3d,15M1,14,3e,15Dq,76dDq,773M1,1cV10hM1,6qz,6qz,6qz,6qzV2vM1,1m,1m,1pM1,1p,1p",
      "M1,1p,1p,1pV2tM1,8gt,mwV47X2V3uU1c,1cV1cM1,8rlV1M1,h7M1,5tpM1,hpV2A6M1,ghM1,hdM1,ggM1,giV1",
      "M1,8s3V2M1,8s6V6M1,2yM1,3aD2,8cfA2sV7A4V3M1,8vnV1X5V19X1V1X5V1X2V1kX7M1,8ypV1XeVoX9V7X1V7",
      "X1V7X1V7X1V7X1V7X1V7X1V7X1V3iXyVqX1V4M1,lalV2bM1,vj3XcM1,feoM1,ffsM1,fg6M1,fgfM1,fh5M1,fid",
      "M1,fikM1,fj4M1,fjuM1,g1rM1,g2tM1,g2zM1,g3mM1,g46M1,g4rM1,g68M1,g6tM1,g74M1,gbfM1,ge1M1,get",
      "M1,geyM1,gfsM1,gg1M1,ggsM1,gh5M1,ghuM1,gjaM1,gjsM1,gkjM1,h5jM1,h7jM1,hkbM1,hkyM1,hl6M1,hlh",
      "M1,hlzM1,ho3M1,i1cM1,i2oM1,i60M1,i6nM1,i76M1,i7sM1,i9aM1,i9dM1,ijfM1,ijpM1,ik1M1,ikeM1,inm",
      "M1,inuM1,inzM1,ir8M1,iriM1,irvM1,is3M1,itsM1,iu9M1,iurM1,iwzM1,jd4M1,jeeM1,jezM1,jzjM1,jzo",
      "M1,k1zM1,k2fM1,k2sM1,k3dM1,k4gM1,k4lM1,kc0M1,kcoM1,kdkM1,l5sM1,l7mM1,l89M1,l9vM1,lajM1,las",
      "M1,lazM1,lcfM1,lckM1,ldgM1,m7fM1,mjuM1,mk6M1,mkbM1,mkfM1,mknM1,ml5M1,ml7M1,mngM1,mtgM1,mtl",
      "M1,n30M1,n3aM1,n4oM1,n4vM1,n54M1,n5cM1,n7vM1,n82M1,neeM1,nelM1,nfyM1,ngfM1,nhqM1,nobM1,noi",
      "M1,nozM1,ny2M1,o1kM1,o1qM1,o6sM1,o97M1,oahM1,okzM1,oooM1,p4mM1,p5dM1,p6yM1,p8dM1,pa9M1,pak",
      "M1,paqM1,pbnM1,pdrM1,pe1M1,pnnM1,pnuM1,po3M1,pocM1,posM1,pp7M1,ppbM1,priM1,prmM1,prsM1,qj1",
      "M1,qjvM1,qwwM1,qx8M1,qxvM1,r5qM1,r63M1,r82M1,r9cM1,rp3M1,rpiM1,rpxM1,rqwM1,rrxM1,rxgM1,rxs",
      "M1,rznM1,s6jM1,s7eM1,sd7M1,sdsM1,sdxM1,sk1M1,sp5M1,ssmM1,sssM1,ssxM1,tivM1,tj4M1,tngM1,trq",
      "M1,trtM1,tt4M1,tw1M1,tweM1,twiM1,twpM1,tzfM1,u0dM1,u0jM1,u0xM1,u5kM1,u6zM1,u73M1,uc6M1,uc9",
      "M1,ucsM1,ujsM1,ul4M1,ulbM1,un9M1,unjM1,unmM1,unwM1,uoqM1,uzpM1,vatM1,vb3M1,vc5M1,vcrM1,vcz",
      "M1,vd9M1,vddM1,vehM1,velM1,vf2M1,vf7M1,vfkM1,vgbM1,vgqM1,vgyM1,vilM1,vj0M1,vj4X16M1,wV1",
      "M1,1aV1fM1,9huV1M1,gg1U2,6x7V5X1V2eX2V2M1,w,9llM1,w,9lmV2M1,9l4,9l6V2nM1,9mb,9mwX5V17X1",
      "D2,6cxM1,3hmM1,3cyD2,689D3,6d0D6,68aM1,3dmD3,6d7M1,3dtDa,6d8Dl,6b2I1D2,6dtD2,68wM1,3ik",
      "M1,3imM1,3irM1,3ivM1,3ixM1,3doM1,3j1M1,3j3D2,6dwM1,3dsD2,6duM1,3dzM1,3e1D5,6dpM1,3eaM1,3ee",
      "M1,3eoM1,3evM1,3f0D2,68hD3,6ctD2,6bnM1,3goD2,6bdM1,3h0M1,3haM1,3hdX1V2M1,feoM1,fikM1,fex",
      "M1,h5nM1,feyM1,ffxM1,fezM1,n5eM1,fh5M1,ffdM1,fepM1,hm1M1,h80M1,fjuV1yXaVgM1,14,3cw,15",
      "M1,14,3cy,15M1,14,3cz,15M1,14,3d1,15M1,14,3d2,15M1,14,3d3,15M1,14,3d5,15M1,14,3d7,15",
      "M1,14,3d8,15M1,14,3da,15M1,14,3db,15M1,14,3dc,15M1,14,3dd,15M1,14,3de,15M1,14,xz4,15",
      "M1,14,yvs,15M1,14,zc4,15M1,14,108s,15M1,14,10p4,15M1,14,115g,15M1,14,1224,15M1,14,12ys,15",
      "M1,14,13f4,15M1,14,14bs,15M1,14,14s4,15M1,14,158g,15M1,14,15os,15M1,14,1654,15",
      "M1,14,13p8,15M1,14,1350,13ic,15M1,14,1350,16f8,15X1M1,14,feo,15M1,14,fik,15M1,14,fex,15",
      "M1,14,h5n,15M1,14,fis,15M1,14,g31,15M1,14,fer,15M1,14,g2z,15M1,14,fh9,15M1,14,gg1,15",
      "M1,14,kco,15M1,14,m7f,15M1,14,ldg,15M1,14,kdk,15M1,14,ssx,15M1,14,h7j,15M1,14,k4l,15",
      "M1,14,kkq,15M1,14,kcp,15M1,14,ny6,15M1,14,glp,15M1,14,mm1,15M1,14,rs1,15M1,14,nz1,15",
      "M1,14,gc4,15M1,14,fkz,15M1,14,gos,15M1,14,i1y,15M1,14,nhf,15M1,14,flt,15M1,14,rt3,15",
      "M1,14,ggk,15M1,14,nzh,15M1,14,fm9,15M1,14,pnu,15M1,14,po3,15M1,gunM1,inwM1,k1zM1,oenV8",
      "M1,34,38,2tM1,1e,1dM1,1e,1eM1,1e,1fM1,1e,1gM1,1e,1hM1,1e,1iM1,1e,1jM1,1e,1kM1,1e,1l",
      "M1,1f,1cM1,1f,1dM1,1f,1eM1,1f,1fM1,1f,1gM1,1f,1hM1,3cwD2,6lbD3,6laM1,3d5D2,6l8D5,6l7M1,xz4",
      "M1,yvsM1,zc4M1,108sM1,10p4M1,115gM1,1224M1,12ysM1,13f4M1,14bsM1,14s4M1,158gM1,15osM1,1654",
      "M1,14c8,y5cM1,13p8,13dkM1,138wV1M1,feoM1,fikM1,fexM1,h5nM1,fisM1,g31M1,ferM1,g2zM1,fh9",
      "M1,gg1M1,kcoM1,m7fM1,ldgM1,kdkM1,ssxM1,h7jM1,k4lM1,kkqM1,kcpM1,ny6M1,glpM1,mm1M1,rs1M1,nz1",
      "M1,gc4M1,o2gM1,n5jM1,ho3M1,sixM1,g16M1,ghcM1,ligM1,u11M1,fm9M1,g49M1,l7nM1,feyM1,ffxM1,fez",
      "M1,ijqM1,gkzM1,gfvM1,i3bM1,i1yM1,nhfM1,fltM1,rt3M1,ggkM1,hloM1,1f,1iM1,1f,1jM1,1f,1k",
      "M1,1f,1lM1,1g,1cM1,1g,1dM1,1g,1eM1,1g,1fM1,1g,1gM1,1g,1hM1,1g,1iM1,1g,1jM1,1g,1kM1,1g,1l",
      "M1,1h,1cM1,1d,kcoM1,1e,kcoM1,1f,kcoM1,1g,kcoM1,1h,kcoM1,1i,kcoM1,1j,kcoM1,1k,kcoM1,1l,kco",
      "M1,1d,1c,kcoM1,1d,1d,kcoM1,1d,1e,kcoM1,2w,2vM1,2t,36,2vM1,2t,3aM1,30,38,2sM1,9luM1,9lw",
      "M1,9lyM1,9m0D2,feM1,9m5M1,9m7M1,9m9M1,9mbM1,9mdM1,9mfM1,9mhM1,9mjM1,9mlM1,9mnM1,9mpM1,9ms",
      "M1,9muM1,9mwD6,eyM1,9n6M1,9n9M1,9ncM1,9nfD5,eoM1,9noM1,9nqD6,elD4,ekM1,fl0,gp8",
      "M1,9lu,9n5,9oc,9mwM1,9lu,9nv,9n9,9ltM1,9lu,9o3,9ne,9luM1,9lu,9oc,9nvM1,9lw,9mz,9o3,9m8",
      "M1,9lw,9o3,9mpM1,9ly,9m1,9o3M1,9m0,9mh,9m7,9oc,9mxM1,9m0,9oc,9m3,9ocM1,9m2,9o3,9mh",
      "M1,9m2,9oc,9nkM1,9m3,9lw,9nuM1,9m3,9nt,9mr,9mwM1,9m3,9nx,9nu,9ocM1,9m4,9nx,9o3",
      "M1,9m4,9o3,9niM1,9m6,9m4M1,9m6,9mz,9ocM1,9m5,9np,9nu,9ocM1,9m6,9nv,9mo,9ocM1,9m5,9nx",
      "M1,9m5,9nx,9m8,9nt,9nkM1,9m5,9nx,9nl,9oc,9mw,9nvM1,9m5,9nx,9nz,9mr,9mwM1,9m8,9nt,9nk",
      "M1,9m8,9nt,9nk,9mw,9o3M1,9m7,9nv,9mk,9lw,9nxM1,9m7,9nx,9oc,9n1M1,9m9,9oc,9mhM1,9mb,9nv,9my",
      "M1,9mb,9oc,9nhM1,9md,9lw,9m7,9nvM1,9md,9o3,9mp,9oc,9nkM1,9mf,9nu,9o3,9m8M1,9mj,9o3,9mp",
      "M1,9mj,9o3,9mwM1,9mo,9oc,9mhM1,9mv,9mfM1,9mx,9nvM1,9mw,9o3M1,9my,9n2M1,9n2,9mr,9mw",
      "M1,9n3,9lw,9msM1,9n5,9oc,9mj,9o3,9mwM1,9n5,9oc,9msM1,9n4,9oc,9nw,9nvM1,9n8,9lu,9mh,9mw,9nv",
      "M1,9n8,9m7,9nvM1,9n8,9mbM1,9n7,9nvM1,9n9,9lt,9nt,9mr,9mxM1,9n9,9lv,9oc,9mw",
      "M1,9na,9mr,9mf,9lz,9nvM1,9n9,9nt,9o3M1,9nc,9m7,9mn,9oc,9nvM1,9ne,9mlM1,9ne,9mz,9n6",
      "M1,9nc,9nv,9msM1,9ne,9o3,9mhM1,9ne,9oc,9mgM1,9nd,9oc,9mnM1,9nh,9lw,9o3,9mwM1,9ng,9nv,9mw",
      "M1,9nf,9o3M1,9nh,9o3,9mxM1,9nf,9oc,9nvM1,9nf,9oc,9o3M1,9ni,9lw,9m7,9nxM1,9ni,9lw,9nv",
      "M1,9ni,9mr,9n3M1,9ni,9nv,9m7M1,9ni,9o3,9mf,9nr,9o3M1,9nj,9m7,9nx,9o3M1,9nj,9nu",
      "M1,9nj,9nu,9n4,9oc,9nvM1,9nl,9m4M1,9nl,9m4,9mw,9o3M1,9nl,9oc,9mw,9nvM1,9no,9oc,9mx",
      "M1,9no,9oc,9nvM1,9nq,9lu,9o3M1,9nu,9mr,9mw,9nvM1,9nu,9ntM1,9nv,9n8,9ocM1,9nv,9oc,9na,9nv",
      "M1,9nw,9nkM1,9nw,9o3,9mw,9ma,9o3M1,9nz,9mr,9mwM1,1c,m9lM1,1d,m9lM1,1e,m9lM1,1f,m9l",
      "M1,1g,m9lM1,1h,m9lM1,1i,m9lM1,1j,m9lM1,1k,m9lM1,1l,m9lM1,1d,1c,m9lM1,1d,1d,m9lM1,1d,1e,m9l",
      "M1,1d,1f,m9lM1,1d,1g,m9lM1,1d,1h,m9lM1,1d,1i,m9lM1,1d,1j,m9lM1,1d,1k,m9lM1,1d,1l,m9l",
      "M1,1e,1c,m9lM1,1e,1d,m9lM1,1e,1e,m9lM1,1e,1f,m9lM1,1e,1g,m9lM1,2w,34,2pM1,2s,2pM1,2p,39",
      "M1,2q,2p,36M1,33,3aM1,34,2rM1,2s,31M1,2s,31,1eM1,2s,31,1fM1,2x,39M1,inn,jdcM1,k6l,gp8",
      "M1,hlz,l7nM1,k5q,lh7M1,kkq,irz,fmi,ny6M1,34,2pM1,32,2pM1,qk,2pM1,31,2pM1,2z,2pM1,2z,2q",
      "M1,31,2qM1,2v,2qM1,2r,2p,30M1,2z,2r,2p,30M1,34,2uM1,32,2uM1,qk,2uM1,qk,2vM1,31,2vM1,2z,2v",
      "M1,2w,3eM1,2z,2w,3eM1,31,2w,3eM1,2v,2w,3eM1,38,2w,3eM1,qk,30M1,31,30M1,2s,30M1,2z,30",
      "M1,2u,31M1,32,31M1,qk,31M1,31,31M1,2r,31M1,2z,31M1,31,31,1eM1,2r,31,1eM1,31,1eM1,2z,31,1e",
      "M1,31,31,1fM1,2r,31,1fM1,31,1fM1,2z,31,1fM1,31,6qd,37M1,31,6qd,37,1eM1,34,2pM1,2z,34,2p",
      "M1,31,34,2pM1,2v,34,2pM1,36,2p,2sM1,36,2p,2s,6qd,37M1,36,2p,2s,6qd,37,1eM1,34,37M1,32,37",
      "M1,qk,37M1,31,37M1,34,3aM1,32,3aM1,qk,3aM1,31,3aM1,2z,3aM1,31,3aM1,34,3bM1,32,3bM1,qk,3b",
      "M1,31,3bM1,2z,3bM1,31,3bM1,2z,qxM1,31,qxX1M1,2q,35M1,2r,2rM1,2r,2sM1,2r,6qd,2z,2vX1",
      "M1,2s,2qM1,2v,3dM1,2w,2pM1,2w,34M1,2x,32M1,2z,2zM1,2z,31M1,2z,38M1,30,31M1,30,32",
      "M1,30,33,2vM1,30,3cM1,31,2qM1,31,2x,30M1,31,33,30M1,34,2wX1M1,34,34,31M1,34,36M1,37,36",
      "M1,37,3aM1,3b,2qM1,3a,6qd,31M1,2p,6qd,31M1,1d,k4lM1,1e,k4lM1,1f,k4lM1,1g,k4lM1,1h,k4l",
      "M1,1i,k4lM1,1j,k4lM1,1k,k4lM1,1l,k4lM1,1d,1c,k4lM1,1d,1d,k4lM1,1d,1e,k4lM1,1d,1f,k4l",
      "M1,1d,1g,k4lM1,1d,1h,k4lM1,1d,1i,k4lM1,1d,1j,k4lM1,1d,1k,k4lM1,1d,1l,k4lM1,1e,1c,k4l",
      "M1,1e,1d,k4lM1,1e,1e,k4lM1,1e,1f,k4lM1,1e,1g,k4lM1,1e,1h,k4lM1,1e,1i,k4lM1,1e,1j,k4l",
      "M1,1e,1k,k4lM1,1e,1l,k4lM1,1f,1c,k4lM1,1f,1d,k4lM1,2v,2p,30Vm8dX3V1jX9V9oXkA1aViAsM1,ui",
      "M1,ukV2iX8VyAeV2A1qM1,x2nV8A4M1,5tlAaV3M1,x3gV1M1,h1V2A4V2AkM1,h2M1,gsM1,gxM1,h8M1,h6V1",
      "M1,imM1,hzM1,ilM1,xubAgM1,x3oM1,huM1,5u6A4M1,h0AgM1,bfXkM1,37M1,2rM1,2uM1,35M1,x6eV2M1,87",
      "M1,9fV1fX3VaX6V1kX8V1yX8VcX6V38XbVuX3V26X1VbX4VxX1V1jX9VeX2VaX2V2vXoVsXaV6X2V6X2V6X9V7X1V7",
      "X1V18M1,x0nM1,xtjM1,h7M1,xuaV9M1,i5V2X4D28,tzkV1aX2VaX6V8mcXcVnX4V1dX6isM1,rpkM1,kc4M1,s7e",
      "M1,rt4M1,lw1M1,fg2M1,gklM2,vj0M1,hn5M1,ssxM1,gw7M1,hmwM1,jcmM1,ne1M1,p6tM1,qinM1,qt6M1,r20",
      "M1,sjzM1,kxuM1,ljvM1,mahM1,mvyM1,q4dM1,sq2M1,uepM1,fiaM1,ghhM1,l50M1,mjfM1,qi5M1,v8eM1,ifk",
      "M1,m3vM1,qfhM1,r50M1,jihM1,pncM1,qvzM1,iq2M1,kd3M1,lm2M1,mpoM1,slqM1,fpiM1,g53M1,gdaM1,jwk",
      "M1,l3nM1,mj4M1,nhjM1,pa9M1,qh2M1,qjgM1,s1bM1,tv6M1,upbM1,v7eM1,nt8M1,nzzM1,otcM1,q15M1,t1g",
      "M1,vb3M1,rfaM1,hjzM1,iroM1,okgM1,pdqM1,mleM1,nuyM1,rsyM1,ttjM1,hjsM1,i8yM1,kybM1,lp6M1,lxr",
      "M1,oq7M1,oxjM1,torM1,gcyM1,pe3M1,g64M1,g5oM1,o4cM1,ou6M1,q29M1,tpxM1,rk0M1,jinM1,kxuM1,rge",
      "M1,fg9M1,i5jM1,iz6M1,mtjM1,n74M1,gevM1,nwbM1,fr3M1,iw9M1,ff1M1,lhoM1,k1kM1,opuM1,gjnM1,hge",
      "M1,ni9M1,q4pM1,re2M1,la2M1,sdsM1,lfsM1,jjyM1,putM1,jogM1,n6tM1,fjiM1,g2xM1,g5lM1,kn5M1,oo7",
      "M1,prjM1,rf6M1,ssvM1,gdxM1,gn6M1,ho3M1,ir0M1,k3pM1,m4eM1,nxmM1,tkdM1,ui2M1,vbrM1,vdaM1,gbf",
      "M1,kauM1,l87M1,sbmM1,inoM1,j9sM1,jcwM1,jveM1,lybM1,mdlM1,n0pM1,o22M1,ovoM1,pdbM1,s9yM1,q9a",
      "M1,sgzM1,t3eM1,g7rM1,gbnM1,gqlM1,ma0M1,r0iM1,re2M1,iq1M1,iydM1,jnfM1,l9qM1,ojiM1,mt1M1,fl0",
      "M1,h6hM1,i5jM1,iiiM1,izgM1,muqM1,mztM1,p7eM1,pc6M1,svoM1,ttiM1,tvsM1,u1kM1,fpnM1,o1aM1,ss4",
      "M1,trsM1,j4xM1,fieM1,fyyM1,i5qM1,i7zM1,k2hM1,kxuM1,mhaM1,ncyM1,q9oM1,sjgM1,vilM1,k94M1,tny",
      "M1,gaxM1,kfvM1,kj7M1,lkxM1,lukM1,mx5M1,n6hM1,nsbM1,opcM1,u3iM1,g31M1,je6M1,tq0M1,fu3M1,ie1",
      "M1,lpmM1,sa2M1,ivfM1,j7oM1,kk7M1,mtjM1,tqeM1,g89M1,glrM1,i91M1,k5vM1,kemM1,ko8M1,lidM1,mx2",
      "M1,naaM1,p6hM1,r0vM1,r1dM1,sssM1,tsyM1,gfzM1,lveM1,gm5M1,mhcM1,n14M1,qgqM1,tr7M1,uvrM1,vbz",
      "M1,kgnM1,lorM1,pnsM1,o97M1,obkM1,oluM1,mo0M1,m8pM1,riwM1,fk0M1,px2M1,g8qM1,g7bM1,ip2M1,jir",
      "M1,onqM1,i2tM1,ljyM1,kacM1,sajM1,qx8M1,totM1,r63M1,iqbM1,g1sM1,gxsV2M1,hgaV1M1,k8kV2M1,g66",
      "M1,mqyM1,ngqM1,ny4M1,nz2M1,nz9M1,o0fM1,tw6M1,on2M1,p8dV1M1,qheV1M1,rg8V2M1,shkM1,sn1V3",
      "M1,u7jM1,u7wM1,u94M1,v5gM1,sm6M1,trrM1,fqmM1,fzbM1,g25M1,gcpM1,gdgM1,gghM1,gwtM1,gzqM1,h2g",
      "M1,hfkM1,higM1,i90M1,i9aM1,j2sM1,j8oM1,j9qM1,jciM1,k0fM1,k4iM1,k9dM1,kn9M1,lmfM1,lqyM1,lya",
      "M1,memM1,mjvM1,mxuM1,ntdM1,ny6M1,nyhM1,nygM1,nyoM1,nyuM1,nz1D2,pfpM1,o5cM1,o75M1,og0M1,ovo",
      "M1,ow9M1,oxtM1,p6aM1,padM1,pnxM2,prtM1,q53M1,r2oM1,r6eM1,rghM1,ri1M1,rtfM1,ruwM1,sdyM1,shk",
      "M1,tszM1,u0vM1,u2jM1,j1xM1,36cuM1,pp4X2M1,ffqM1,g51M1,g2wM1,fpcM1,g1xM1,g3kM1,gcnM1,ge2",
      "M1,gwtM1,gutM1,gwpM1,gyqM1,hgaM1,hirM1,hmsM1,hn8M1,huqM1,i08M1,iqaM1,iqhM1,iuhM1,iwdM1,j4o",
      "M1,j7yM1,j60M1,j9qM1,j8gM1,jciM1,jecM1,jpgM1,jrwM1,jteM1,k0mM1,k8kM1,kd3M1,kd7M1,keuM1,l89",
      "M1,la2M1,lkxM1,lwbM1,lvvM1,lyaM1,m5aM1,memM1,nmvM1,mk5M1,mnjM1,mqyM1,n01M1,n46M1,n5nM1,nbx",
      "M1,nbzM1,ngqM1,nh7M1,nhwM1,nkaM1,nk0M1,nv0M1,o8hM1,og0M1,ol7M1,orfM1,ovoM1,p4uM1,padM1,pxu",
      "M1,q27M1,qrdM1,r41M1,r5yM1,r6eM1,renM1,rg8M1,rezM1,rghM1,rgeM1,rfxM1,ri1M1,rkaM1,ruwM1,sag",
      "M1,sj6M1,srdM1,sxiM1,tq4M1,tszM1,tw6M1,tzvM1,u0vM1,u17M1,u2jM1,umqM1,vj0M1,313eM1,3138",
      "M1,33dhM1,brxM1,cnsM1,copM1,39e1M1,3bgwM1,3i6rM1,vgjM1,vimX12M1,2u,2uM1,2u,2xM1,2u,30",
      "M1,2u,2u,2xM1,2u,2u,30M2,37,38XcM1,12s,12uM1,12s,12dM1,12s,12jM1,132,12uM1,12s,12lX5",
      "M1,15l,14kV1M1,16a,14nM1,15uM1,15cD2,1cgfD3,1cg9M1,160M1,162M1,17M1,161,14xM1,161,14y",
      "M1,161,14s,14xM1,161,14s,14yM1,15c,14nM1,15c,14oM1,15c,14sM1,15d,14sM1,15e,14sM1,15f,14s",
      "M1,15g,14sM1,15h,14sM1,15i,14sX1M1,15k,14sM1,15l,14sM1,15m,14sM1,15n,14sM1,15o,14sX1",
      "M1,15q,14sX1M1,15s,14sM1,15t,14sX1M1,15v,14sM1,15w,14sX1M1,15y,14sM1,15z,14sM1,160,14s",
      "M1,161,14sM1,162,14sM1,15h,14pM1,15d,14vM1,15n,14vM1,15w,14vM1,15c,15oM2,19tM4,1a3M4,1a6",
      "M4,1a8M4,1a2M4,1a7M4,1a1M4,1b8M4,1baM4,1acM4,1abM4,1aeM4,1afM2,1alM2,1akM2,1amM2,1agM2,1aw",
      "M2,1apM4,1bdM4,1bjM4,1bnM4,1blM2,1buM4,1bvM2,1c0M4,1c1M4,1byM2,1ciM2,1cjVxM4,1bhM2,1c7",
      "M2,1c6M2,1c8M1,1c7,19wM2,1cbM2,1c5M2,1c9M4,1cgM2,18pM2,17q,17rM2,17q,1clM2,17q,18o",
      "M2,17q,1c7M2,17q,1c6M2,17q,1c8M3,17q,1cgM3,17q,18pM4,1ccM1,17q,17wM1,17q,17xM1,17q,18l",
      "M1,17q,18pM1,17q,18qM1,17s,17wM1,17s,17xM1,17s,17yM1,17s,18lM1,17s,18pM1,17s,18qM1,17u,17w",
      "M1,17u,17xM1,17u,17yM1,17u,18lM1,17u,18pM1,17u,18qM1,17v,17wM1,17v,18lM1,17v,18pM1,17v,18q",
      "M1,17w,17xM1,17w,18lM1,17x,17wM1,17x,18lM1,17y,17wM1,17y,17xM1,17y,18lM1,183,17wM1,183,17x",
      "M1,183,17yM1,183,18lM1,185,17xM1,185,18lM1,186,17wM1,186,17xM1,186,17yM1,186,18lM1,187,17x",
      "M1,187,18lM1,188,18lM1,189,17wM1,189,18lM1,18a,17wM1,18a,18lM1,18h,17wM1,18h,17xM1,18h,17y",
      "M1,18h,18lM1,18h,18pM1,18h,18qM1,18i,17xM1,18i,18lM1,18i,18pM1,18i,18qM1,18j,17rM1,18j,17w",
      "M1,18j,17xM1,18j,17yM1,18j,18kM1,18j,18lM1,18j,18pM1,18j,18qM1,18k,17wM1,18k,17xM1,18k,17y",
      "M1,18k,18lM1,18k,18pM1,18k,18qM1,18l,17wM1,18l,17xM1,18l,17yM1,18l,18lM1,18l,18pM1,18l,18q",
      "M1,18m,17wM1,18m,17xM1,18m,17yM1,18m,18lM1,18m,18pM1,18m,18qM1,18n,17wM1,18n,18lM1,18n,18p",
      "M1,18n,18qM1,18q,17wM1,18q,17xM1,18q,17yM1,18q,18lM1,18q,18pM1,18q,18qM1,180,19sM1,181,19s",
      "M1,18p,19sM1,w,18s,18xM1,w,18t,18xM1,w,18u,18xM1,w,18v,18xM1,w,18w,18xM1,w,18x,19s",
      "M1,17q,181M1,17q,182M1,17q,18lM1,17q,18mM1,17q,18pM1,17q,18qM1,17s,181M1,17s,182M1,17s,18l",
      "M1,17s,18mM1,17s,18pM1,17s,18qM1,17u,181M1,17u,182M1,17u,18lM1,17u,18mM1,17u,18pM1,17u,18q",
      "M1,17v,181M1,17v,182M1,17v,18lM1,17v,18mM1,17v,18pM1,17v,18qM1,18h,18pM1,18h,18qM1,18i,18p",
      "M1,18i,18qM1,18j,17rM1,18j,18kM1,18j,18lM1,18j,18pM1,18j,18qM1,18k,18lM1,18k,18pM1,18k,18q",
      "M1,18l,17rM1,18l,18lM1,18m,181M1,18m,182M1,18m,18lM1,18m,18mM1,18m,18pM1,18m,18qM1,18p,19s",
      "M1,18q,181M1,18q,182M1,18q,18lM1,18q,18mM1,18q,18pM1,18q,18qM1,17q,17wM1,17q,17xM1,17q,17y",
      "M1,17q,18lM1,17q,18nM1,17s,17wM1,17s,17xM1,17s,17yM1,17s,18lM1,17s,18nM1,17u,17wM1,17u,17x",
      "M1,17u,17yM1,17u,18lM1,17u,18nM1,17v,18lM1,17w,17xM1,17w,18lM1,17x,17wM1,17x,18lM1,17y,17w",
      "M1,17y,18lM1,183,17wM1,183,17xM1,183,17yM1,183,18lM1,185,17xM1,185,17yM1,185,18lM1,186,17w",
      "M1,186,17xM1,186,17yM1,186,18lM1,187,17xM1,188,18lM1,189,17wM1,189,18lM1,18a,17wM1,18a,18l",
      "M1,18h,17wM1,18h,17xM1,18h,17yM1,18h,18lM1,18i,17xM1,18i,18lM1,18j,17wM1,18j,17xM1,18j,17y",
      "M1,18j,18kM1,18j,18lM1,18k,17wM1,18k,17xM1,18k,17yM1,18k,18lM1,18k,18nM1,18l,17wM1,18l,17x",
      "M1,18l,17yM1,18l,18lM1,18m,17wM1,18m,17xM1,18m,17yM1,18m,18lM1,18m,18nM1,18n,17wM1,18n,18l",
      "M1,18n,19sM1,18q,17wM1,18q,17xM1,18q,17yM1,18q,18lM1,18q,18nM1,17q,18lM1,17q,18nM1,17s,18l",
      "M1,17s,18nM1,17u,18lM1,17u,18nM1,17v,18lM1,17v,18nM1,183,18lM1,183,18nM1,184,18lM1,184,18n",
      "M1,18j,18kM1,18j,18lM1,18k,18lM1,18m,18lM1,18m,18nM1,18q,18lM1,18q,18nM1,18g,18u,18x",
      "M1,18g,18v,18xM1,18g,18w,18xM1,187,18pM1,187,18qM1,189,18pM1,189,18qM1,18a,18pM1,18a,18q",
      "M1,183,18pM1,183,18qM1,184,18pM1,184,18qM1,17x,18pM1,17x,18qM1,17w,18pM1,17w,18qM1,17y,18p",
      "M1,17y,18qM1,185,18pM1,185,18qM1,186,18pM1,186,18qM1,184,17wM1,184,17xM1,184,17yM1,184,18l",
      "M1,184,181M1,183,181M1,185,181M1,186,181M1,187,18pM1,187,18qM1,189,18pM1,189,18qM1,18a,18p",
      "M1,18a,18qM1,183,18pM1,183,18qM1,184,18pM1,184,18qM1,17x,18pM1,17x,18qM1,17w,18pM1,17w,18q",
      "M1,17y,18pM1,17y,18qM1,185,18pM1,185,18qM1,186,18pM1,186,18qM1,184,17wM1,184,17xM1,184,17y",
      "M1,184,18lM1,184,181M1,183,181M1,185,181M1,186,181M1,184,17wM1,184,17xM1,184,17yM1,184,18l",
      "M1,183,18nM1,184,18nM1,187,18lM1,183,17wM1,183,17xM1,183,17yM1,184,17wM1,184,17xM1,184,17y",
      "M1,187,18lM1,188,18lM2,17r,18rViM1,17u,17w,18lM2,17u,17x,17wM1,17u,17x,18lM1,17u,17y,18l",
      "M1,17u,18l,17wM1,17u,18l,17xM1,17u,18l,17yM2,17w,18l,17xM1,17x,18l,18qM1,17x,18l,18p",
      "M1,183,17x,17wM1,183,17w,17xM1,183,17w,18pM2,183,18l,17xM1,183,18l,17wM2,183,18l,18l",
      "M2,185,17x,17xM1,185,18l,18lM2,184,17x,18lM1,184,17w,18qM2,184,18l,17yM2,184,18l,18l",
      "M1,186,17x,18pM2,186,17y,18lM2,187,18l,17xM1,187,18l,18lM1,187,18l,18qM1,189,17w,18l",
      "M2,189,18l,18lM1,189,18l,18pM1,18a,18l,18lM1,18a,18l,18qM1,18a,18l,18pM2,18h,17y,18l",
      "M1,18i,18l,17xM1,18i,18l,18lM1,18k,17x,18lM1,18k,17x,18qM1,18k,17x,18pM2,18k,17w,17w",
      "M2,18k,17y,18lM2,18k,18l,17xM1,18l,17x,17wM1,18l,17x,18lM1,18l,17x,18qM1,18l,17w,17x",
      "M1,18l,17w,18lM1,18l,17y,17wM1,18l,17y,18lV2M1,18l,17w,17yM1,18n,18l,17wM1,18n,18l,18l",
      "M1,18m,17x,18lM1,18m,17x,18pM2,18m,17w,18lM1,18m,17w,18pM1,18m,18l,18qM1,18m,18l,18p",
      "M2,18q,18l,18lM1,17s,17y,18qM1,17u,17w,18qM1,17u,17w,18pM1,17u,17y,18qM1,17u,17y,18p",
      "M1,17u,18l,18qM1,17u,18l,18pM1,17w,18l,18qM1,17w,17x,18pM1,17w,18l,18pM1,183,17y,18p",
      "M1,185,17x,18qM1,184,17x,18qM1,186,17x,18qM1,18k,17w,18qM1,18k,18l,18qM1,18q,17x,18q",
      "M1,18q,17w,18qM1,18q,18l,18qM1,18l,18l,18qM1,18i,18l,18qM1,18m,17x,18qM1,18i,18l,17x",
      "M1,18k,17x,18lM1,189,18l,18qM1,18j,18l,18qM1,18m,17w,17xM1,18l,17y,18qM1,18k,17w,18l",
      "M1,18j,18l,18lM1,18k,17w,18lM1,18m,17w,17xM1,17w,17x,18qM1,17x,17w,18qM1,18l,17w,18q",
      "M1,18h,18l,18qM1,17s,17x,18qM1,18j,18l,18lM1,189,17w,18lM1,185,18l,18lM1,183,17y,18q",
      "M1,18m,17w,18qV8XwM1,185,18k,1ciM1,18i,18k,1ciM1,17r,18k,18k,18nM1,17r,18j,17s,181",
      "M1,18l,17x,18l,17zM1,185,18k,189,18lM1,181,183,18o,18kM1,189,18k,18q,18nM1,18o,183,18k,18l",
      "M1,185,18k,18pM1,185,18k,18p,w,17r,18k,18k,18n,w,189,18k,18q,18n,w,18o,183,18k,18l",
      "M1,17w,18k,w,17w,18k,17r,18k,18nM1,181,1cc,17r,18kV3IgM1,18M1,9hdX1D2,1e55M1,xM1,1rD2,14ox",
      "X7VgX1M1,6c4M1,6c3M2,2nD2,1e6lM1,3fM1,3hD2,14pxD2,14q3D2,14qbD2,14qfD4,14qdV2M1,2jM1,2l",
      "M4,w,lhM3,2nM1,18M1,9hdX2M1,1nM1,1mM1,1rM1,xM1,6c4D2,1e7lM1,3fM1,3hD2,14qxM1,zM1,12D2,1e7r",
      "M1,19M1,1oM1,1qM1,1pX1M1,2kD2,1e85M1,1sX4M1,w,18rM1,18g,18rM1,w,18sV1M1,w,18tX1M1,w,18u",
      "M1,18g,18uM1,w,18vM1,18g,18vM1,w,18wM1,18g,18wM1,w,18xM1,18g,18xM1,w,18yM1,18g,18yD2,1d27",
      "D2,1d28D2,1d29D2,1d2aD2,1d2bM3,17qM2,17rM4,17sM2,17tM4,17uM4,17vM4,17wM4,17xM4,17yM2,17z",
      "M2,180M2,181M2,182M4,183M4,184M4,185M4,186M4,187M4,188M4,189M4,18aM4,18hM4,18iM4,18jM4,18k",
      "M4,18lM4,18mM4,18nM2,18oM2,18pM4,18qM2,18k,17mM2,18k,17nM2,18k,17pM2,18k,17rX2I1X1Dw,1ecg",
      "Dq,1ebkD10,1ecgD2,168qM1,1aD2,14yeM1,9hdM1,9obM1,9o2M1,9ltM1,9lvM1,9lxM1,9lzM1,9m1M1,9nn",
      "M1,9npM1,9nrM1,9mrM1,9ocM1,9luM1,9lwM1,9lyM1,9m0D2,14ujM1,9m5M1,9m7M1,9m9M1,9mbM1,9md",
      "M1,9mfM1,9mhM1,9mjM1,9mlM1,9mnM1,9mpM1,9msM1,9muM1,9mwD6,14u3M1,9n6M1,9n9M1,9ncM1,9nf",
      "D5,14ttM1,9noM1,9nqD6,14tqM1,9nzM1,9o3D2,14w5I1D2,1b4xM1,3hmM1,3cyD2,1b09D3,1b50D6,1b0a",
      "M1,3dmD3,1b57M1,3dtDa,1b58X3D6,1b35X2D6,1b37X2D6,1b39X2D3,1b3bX3D2,1ef2M1,4sM1,w,lgM1,4m",
      "M1,4lM1,6g9X1M1,7b6D4,17x5M1,7fkM1,7grXhVcX1VqX1VjX1V2X1VfX2VeXyV3fX5V3X4V19X3V2gX1VdX3V1",
      "X1bV1aX3mVtX3V1dXfVsX4V10X9VuX5V17X5VuX1V11X4VeX16U14,14V3aX2VaX6U10,14X4V10X4V14X8V1gXbV1",
      "Ub,13X1Uf,13X1U7,13X1U2,13X1VbX1VfX1V7X1V2X3V1gXcV8nX9VmXaV8XoV1D2,1fhtM1,6eM1,ihM1,gjX1",
      "M1,irM1,xuuM1,itM1,isD2,1flhM1,5u9M1,goM1,guM1,ixM1,h0M1,gyM1,gwM1,ijM1,87M1,ikM1,h3M1,hw",
      "D2,1fjjM1,h8M1,2mmcM1,x3iM1,haM1,2mmdM1,i6M1,2mmeM1,6wD2,1fl9M1,35M1,hmM1,2mmgD2,1fl7M1,hs",
      "M1,iwM1,iuM1,xuvM1,ivM1,i0M1,8s1X1M1,i7D2,1fkiM1,igD3,1fquM1,2mmiM1,2mn2X1xV6X2V1X1V18X1V2",
      "X3V1X2VnX1V20X8V9X1cVjX1V2X5VxX3VrX5VrX12V1kX4VkX2V1eX1V2X5V8X1V3X1VtX2V3X4VaX7V9X7V1sXw",
      "V13X4VcX9V1iX3VtX2VrX5VqX7V4XcV7X28V21X1jU1f,1sXdV1fX7V1aX8VaX6VgUm,wX3VtX8V2X5sVvX1V16X1",
      "V3X2V2XgV6X8V9XxV1aX8V16XmVqX12VsXkVnX9V26X4V10X9V1qX1V5XdVpX7VaX6V1hX1ViX8V13X9V2oX1VkXb",
      "ViX1V1bX1qV7X1V1X1V4X1VfX1VbX6V1nX5VaX6V4X1V8X2V2X2VmX1V7X1V2X1V5X1VaX2V2X2V3X2V1X6V1X5V7",
      "X2V7X3V5XbVaX1V1X2V1X1V12X1VaX1V1X2V1X1V4X1VaX1V2X8V2XtV2kX1V5XuV20X8VaX4mV1iX2V12XyV1xXb",
      "VaX6VdXjV1mX6VaX6VkXsVrX2VfX4VnX55V1oX2sUw,wV1fXcV8X2V1X2V8X1V2X1VuX1V2X2VcX9VaX1yV8X2V1a",
      "X2VbXrV20X8V2bXdV21X7VaX2eV8X2gVyXeVaX6V9X1V19X1VeXaVtX3VwX2VmX1VeX21V7X1V2X1V18X3V1X1V2X1",
      "V9X8VaX6V6X1V2X1V11X1V2X1V6X7VaX6V18X4VaX6uVpX7VhX1V15X3VtX2dV1XfV1eXdVpnX2uV33X1V5XbV5g",
      "X218V2rXdVtsXgVmXaV32zX5Vg7X5a1V1mX1c6VftX7VvX1VaX4V29X1VaX6VuX2V6XaV1yXaVaX1V7X1VlX5VjXc0",
      "V1mX5iUw,wV1nX5Up,rX2VpX18V23X4V1lX7VhX1sV5XbV7X9V5p2X15VwX2pV37X6ppV4X1V7X1V2X1V83XfV1Xt",
      "V3X2V1XeV4X8Vb0X1s4V2zX5VdX3V9X7VaX2V4I4X318V5yDq,2iydDa,2j0gV3X3Vc4X6VnXfVhXfV1aX2VnX9V38",
      "X1oV6uXaV13X2V1hM1,2jx3,2jxhM1,2jx4,2jxhM1,2jx4,2jxh,2jxqM1,2jx4,2jxh,2jxr",
      "M1,2jx4,2jxh,2jxsM1,2jx4,2jxh,2jxtM1,2jx4,2jxh,2jxuVeI8V1sM1,2jzt,2jxhM1,2jzu,2jxh",
      "M1,2jzt,2jxh,2jxqM1,2jzu,2jxh,2jxqM1,2jzt,2jxh,2jxrM1,2jzu,2jxh,2jxrV16XlV1yX3eVkXcVkXcV2f",
      "X9VpX3rDq,2kdbDq,2ke1Dq,2kerD7,2kfhX1Di,2kfhDq,2kg7Dq,2kgxM1,2pX1D2,2khnX2M1,2vX2D2,2khnX2",
      "D4,2khnX1D8,2khnD4,2kidX1M1,2uX1D7,2kidX1Db,2kidDq,2kj3Dq,2kjtD2,2kkjX1D4,2kkjX2D8,2kkjX1",
      "D7,2kkjX1Dq,2kl9D2,2klzX1D4,2klzX1D5,2klzX1M1,33X3D7,2klzX1Dq,2kmpDq,2knfDq,2ko5Dq,2kov",
      "Dq,2kplDq,2kqbDq,2kr1Dq,2krrDq,2kshDq,2kt7Dq,2ktxDq,2kunDq,2kvdM1,8hM1,frX2Dh,2k8nM1,qg",
      "D7,2k8nM1,6pzDh,2k9dM2,qrD6,2k9dM1,6puM1,qdM1,qgM1,qiM1,quM1,qpM1,qoDh,2ka9M1,qgD7,2ka9",
      "M1,6pzDh,2kazM2,qrD6,2kazM1,6puM1,qdM1,qgM1,qiM1,quM1,qpM1,qoDh,2kbvM1,qgD7,2kbvM1,6pz",
      "Dh,2kclM2,qrD6,2kclM1,6puM1,qdM1,qgM1,qiM1,quM1,qpM1,qoDh,2kdhM1,qgD7,2kdhM1,6pzDh,2ke7",
      "M2,qrD6,2ke7M1,6puM1,qdM1,qgM1,qiM1,quM1,qpM1,qoDh,2kf3M1,qgD7,2kf3M1,6pzDh,2kftM2,qr",
      "D6,2kftM1,6puM1,qdM1,qgM1,qiM1,quM1,qpM1,qoM2,rhX2Da,2l5qDa,2l60Da,2l6aDa,2l6kDa,2l6uVi4Xf",
      "V5X1VfXuoVvX6V6X5xV7X1VhX2V7X1V2X1V5X5D9,2m0wD3,2m0vDb,2m0uM1,ujD2,2m0rM1,ww9M1,yhM1,uu",
      "M1,uwM1,yxM1,xbM1,y7D9,2m1tD2,2m1sD2,2m1qM1,u9D6,2m1oD2,2m1nM1,whM1,uuM1,utM1,v3M1,x7",
      "M1,wupM1,xdXxV1X34V19X3VeX2VaX4V2X8wVvXhV1mX5V1XcwV16X5yV17X4V1X5cVvX1VmX8V2X68V7X1V4X1V2",
      "X1VfX1V5hX2VgX15Uy,yV16X4VaX4V2XltV1wX24V1pX5eD2,2od5M1,17wM1,17zX1M1,18oM1,182M1,17x",
      "M1,187M1,18qD4,2ocnM1,183M1,189M1,18hM1,185M1,18iM1,181M1,184D2,2odnM1,17yM1,180M1,186",
      "M1,188M1,18aM1,19qM1,1buM1,1b5M1,19rX1M1,17sM1,17wX1M1,18nX2M1,17xX1M1,18qD4,2odjM1,183",
      "M1,189M1,18hM1,185M1,18iX1M1,184D2,2oejM1,17yX1M1,186X1M1,18aX6M1,17wX4M1,17xX1M1,18qX1",
      "M1,18kX1M1,18mM1,183M1,189X1M1,185M1,18iX1M1,184X2M1,17yX1M1,186X1M1,18aX1M1,1buX1M1,19rX1",
      "M1,17sM1,17wX1M1,18nX2M1,17xM1,187M1,18qM1,18jX1D2,2ofbM1,183M1,189M1,18hM1,185M1,18iX1",
      "M1,184D2,2ogbM1,17yX1M1,186M1,188M1,18aM1,19qX1M1,1b5X1D2,2ogpM1,17wM1,17zD2,2ofxM1,182",
      "M1,17xM1,187M1,18qX1D3,2og7M1,183M1,189M1,18hM1,185M1,18iM1,181M1,184D2,2oh7M1,17yM1,180",
      "M1,186M1,188M1,18aX5M1,17sM1,17wM1,17zX1M1,18oM1,182M1,17xM1,187M1,18qX1D3,2oh3M1,183",
      "M1,189M1,18hM1,185M1,18iM1,181M1,184D2,2oi3M1,17yM1,180M1,186M1,188M1,18aX1gV2X7iV18X4V2s",
      "XcVfX2VfX1VfX1V11XbM1,1c,18M1,1d,18M1,1e,18M1,1f,18M1,1g,18M1,1h,18M1,1i,18M1,1j,18",
      "M1,1k,18M1,1l,18V5M1,14,2p,15M1,14,2q,15M1,14,2r,15M1,14,2s,15M1,14,2t,15M1,14,2u,15",
      "M1,14,2v,15M1,14,2w,15M1,14,2x,15M1,14,2y,15M1,14,2z,15M1,14,30,15M1,14,31,15M1,14,32,15",
      "M1,14,33,15M1,14,34,15M1,14,35,15M1,14,36,15M1,14,37,15M1,14,38,15M1,14,39,15M1,14,3a,15",
      "M1,14,3b,15M1,14,3c,15M1,14,3d,15M1,14,3e,15M1,9hw,37,9hxM1,2rM1,36M1,2r,2sM1,3b,3eV1",
      "Dq,2q4vM1,2w,3aM1,31,3aM1,37,2sM1,37,37M1,34,34,3aM1,3b,2rVqM1,31,2rM1,31,2sM1,31,36Vz",
      "M1,2s,2yVtX1kVqM1,9kr,9jfM1,9mb,9mbM1,9mdXdM1,jezM1,i1jM1,gjwM1,9mvM1,fikM1,hlmM1,r8j",
      "M1,hm1M1,fj8M1,k68M1,mchM1,k2hM1,g99M1,ivgM1,g3xM1,k34M1,g7xM1,oqqM1,n4vM1,rs9M1,hkgM1,gmx",
      "M1,lxwM1,jh1M1,jmdM1,feoM1,fexM1,si2M1,ijqM1,ffxM1,gkzM1,jk7M1,rxsM1,jf7M1,o01M1,o6yM1,glk",
      "M1,ltsM1,kcpM1,kcoM1,n5fM1,gaaM1,gxiM1,sp9X4M1,9hw,kdo,9hxM1,9hw,fex,9hxM1,9hw,fik,9hx",
      "M1,9hw,i2x,9hxM1,9hw,m9l,9hxM1,9hw,jf7,9hxM1,9hw,nh3,9hxM1,9hw,gd9,9hxM1,9hw,k0n,9hxX7",
      "M1,ivrM1,gkvXeV6X4aVrdX3VhX3VdX3V62X6VcX4V1XfVcX4V1kX8VaX6V14X8VuX2VcX4V2XeV9X13V9kX8VeX2",
      "VdX3VbX3V1lX1V1X4VgX2VcX4VaX7V43X1V2kDa,2saoV1XslVwyoXwV3dqX2V4geX2V5rlXfVhaX1wiM1,fgd",
      "M1,fg8M1,fghM1,2tcyM1,fogM1,fqmM1,fqzM1,fsyM1,fwaM1,fx5M1,fzbM1,fynM1,ae6M1,2ud6M1,g25",
      "M1,g2cM1,g2sM1,g3bM1,2u58M1,aexM1,g2vM1,g3xM1,2u6jM1,g47M1,g4kM1,fkcM1,g4sM1,g51M1,3ly7",
      "M1,g6tM1,g77M1,afzM1,g8rM1,g92M1,gaaM1,gafM1,ahhM1,gcnM1,gcpM1,gdgM1,ge2D2,3pr8M1,gev",
      "M1,gg9M1,gghM1,ggqM1,ghfM1,ghpM3,ghrM1,2v58M1,m7kM1,gjuM1,gkfM1,2vdvM1,gkrM1,gkxM1,gli",
      "M1,gpqM1,gmwM1,gncM1,go8M1,gpuM1,gs6M1,gswM1,gurM1,gv7M2,gw4M1,gwpM1,gx7M1,gxfM1,gxuM1,h7a",
      "M1,gzqM1,h7bM1,h1tM1,h2sM1,g7bM1,hkeM1,hceM1,hdgM1,he5M1,hajM1,hf6M1,hf5M1,hikM1,2x9g",
      "M1,hkiM1,hknM1,hl2M1,hlmM1,hluM1,hnmM1,2xm0M1,2xnuM1,hrgM1,hsrM1,ht3M1,hqwM1,huuM1,aum",
      "M1,av0M1,hzcM2,i0uM1,2y88M1,i4jM1,i54M1,i5jM1,i5vM1,2yhkM1,i67M1,i6eM1,itvM1,i76M1,ayp",
      "M1,i8wM1,i9aM1,ibkM1,ia5M1,2z1gM1,if7M1,2z1iM1,igeM1,igbM1,igsD2,3nogM1,b3jM1,ikdM1,ilk",
      "M1,im5M1,indM1,b4yM1,2zr7M1,b5oM1,ipcM1,ipfM1,ipiM1,iq2M1,3pg2M1,iriM2,3035M1,pohM2,isi",
      "M1,b7rM1,335kM1,3cgqM1,iuaM1,iujM1,b8jM1,ivuM1,ix9M1,ixjM1,iyhM1,j29M1,bayM1,ba4M1,j2s",
      "M1,30t0M1,j47M1,j7sM1,j7wM1,j7yM1,j7wM1,j96M1,j9qM1,jaqM1,jacM1,janM1,jbyM1,jciM1,jcm",
      "M1,jdcM1,jdnM1,jfhM1,jhtM1,jisM1,jm8M1,31n0M1,jlpM1,jjwM1,jmwM1,jnnM1,jqcM1,31tdM1,js2",
      "M1,jphM1,jopM1,bhqM1,ju1M1,jumM1,jvhM1,jufM1,bjgM1,k0fM1,k18M1,32miM1,k4jM1,kc8M1,k7d",
      "M1,bo9M1,k9dM1,bnsM1,bmsM1,g42M1,g45M1,kcgM1,k9oM1,pf1M1,dehM1,kd3M1,kd7M1,kddM1,kf2M1,ker",
      "M1,33czM1,bplM1,kjeM1,kg5M1,kluM1,kn9M1,33hpM1,kniM1,kkfM1,kr8M1,brxM1,ksiM1,kv7M1,kx6",
      "M1,l2gM1,33xfM1,l3vM1,bvcM1,l5tM1,34brM1,l78M1,bwuM1,l82M1,l9bD2,3l17M1,34p9M1,2yvfM1,34sa",
      "M1,le6M1,354sM1,lhbM1,lhpM1,levM1,ljqM1,lkuM1,lmfM1,lkxM1,lm1M1,lmgM1,lmtM1,357iM1,lkk",
      "M1,lrjM1,ltaM1,c37M1,lvvM1,lvrM1,35jlM1,lq1M1,m0eM1,35niM1,35ouM1,m2uM1,m61M1,m5aM1,m57",
      "M1,c5yM1,m6iM1,m7xM1,m7rM1,m99M1,2u5hM1,mdhM1,368zM1,mfwM1,36i3M1,mjsM1,mk5M1,mkwM1,36yw",
      "M1,mm8M1,mmtM1,3779M1,37dgM1,mt6M1,mtnM1,cdoM1,mudM2,ce0M1,myvM1,mzgM1,n01M1,n0lM1,n2i",
      "M1,cgrM1,n50M1,386uM1,n5qM1,389eM1,n74M1,2zrzM1,nbkM1,38v5M1,38vsM1,38zoM1,cn0M1,cncM1,nhw",
      "M1,394jM1,394iM1,395lM1,396bD2,3iufM1,nj3M1,nkaM1,copM1,nm3M1,cp2M1,craM1,39r1M1,nriM1,nt8",
      "M1,nv0M1,ctfM1,3a5iM1,nyuM1,3a8qM1,3a9xM1,o0fM1,o2zM1,cvjM1,o5cM1,o5mM1,o5rM1,3at8M2,3b1j",
      "M1,oa6M1,d1eM1,3b8rM1,og6M1,og9M1,d2fM1,3beoM1,onmM1,d5sM1,oo8M1,oo3M1,oowM1,3c06M1,orn",
      "M1,d8hM1,oufM1,ow2M1,oxxM1,d9wM1,3ciwM1,3cjrM1,daxM1,3cntM1,p6iM1,3cqmM1,p79M1,pa2M1,pad",
      "M1,3d22M1,3d43M1,pcwM1,3d7sM1,pdcM1,33a7M1,dedM1,pf6M1,phfM1,dfvM1,pj2M1,hx1M1,3dlzM1,3dmd",
      "M1,33bnM1,33bwM1,pohM1,pokM1,sdaM1,dijM1,pshM1,psbM1,pstM1,gc3M1,ptdM1,ptfM1,ptpM1,puu",
      "M1,3ebgM1,putM1,pwdM1,pybM1,q0dM1,pwjM1,q0tM1,q1zM1,q53M1,pxvM1,q16M1,q18M1,q1oM1,3eie",
      "M1,3eqzM1,3emtM1,dnvM1,q9dM1,q9fM1,qaeM1,3g0aM1,qckM1,3f3gM1,dp9M1,dpdM1,3f75M1,3ff6M1,dpn",
      "M1,qj4M1,qjgM1,qjrM1,qjtM1,qllM1,qkoM1,qoeM1,qn6M1,qrdM1,qp4M1,qqzM1,qrqM1,dsnM1,qu9M1,qv5",
      "M1,dtlM1,qxsM1,qxvM1,3givM1,r13M1,r1aM1,dv9M1,r22M1,aezM1,3gz2M1,3h46M1,dz2M1,dzbM1,rds",
      "M1,rfxM1,rkaM1,rpxM1,3hrcM1,rsbM1,rsxM1,rvfM1,rxzM1,3i9bM1,2upwM1,s0bM1,rzwM1,s1cM1,2uvy",
      "M1,s7oM1,sagM1,3jkiM1,3jl9M1,sk4M1,smpM1,snlM1,3ju6M1,snvM1,svsD2,3dhtM1,sxoM1,t89M1,t91",
      "M1,3ksaM1,tjfM1,ej9M1,tknM1,3l2vM1,eliM1,ts3M1,iiaM1,turM1,3ltxM1,3lzuM1,epaM1,epiM1,u00",
      "M1,3mdmM1,er6M1,3mhiM2,u17M1,u21M1,3mpiM1,u76M1,eurM1,u95M1,ucnM1,udeM1,uf2M1,ez2M1,3nsg",
      "M1,umqM1,uv4M1,v0dM1,f66M1,f71M1,v3bM1,3oweM1,f7cM1,3oxxM1,3p5aM1,3p8xM1,vcrM1,f9yM1,veh",
      "M1,vemM1,vetM1,vf3M1,vfaM1,vgbM1,3pxcX15uV3t7X5V6juXf62uI6oX47bk"]

end ArtifactCache.Idna
